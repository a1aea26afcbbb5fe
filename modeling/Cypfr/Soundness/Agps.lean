import Cypfr.Machine.Run
import Cypfr.Proofs.AgpsConnection

/-! # Data connections over a run

Properties of whole runs of the manager with its two machines: the callbacks each handle gets and when it
is listed, that a connection has an active subscriber, and that a release names the connection that was
requested.
-/

namespace Cypfr.Agps

open AgpsStateMachine Machine

/-- The manager beside the callbacks it has made. -/
structure Session where
  manager : AgpsManager
  calls : List (Nif × AgpsCall)

namespace Session

/-- The manager after `createAgpsStateMachines`. -/
def start (capabilities atlType : UInt32) (masks : Nif → UInt32) : Session :=
  ⟨(⟨none, none⟩ : AgpsManager).createAgpsStateMachines capabilities atlType masks, []⟩

/-- What a program of the manager does. -/
def after (s : Session) (p : ManagerM Unit) : Session := ⟨p.next s.manager, s.calls ++ p.emitted s.manager⟩

/-- One message of a run. -/
def step (s : Session) (msg : AtlMsg) : Session := s.after msg.proc

/-- The callbacks a handle has got. -/
def history (s : Session) (connHandle : Int32) : List Callback := callbacks connHandle (s.calls.map Prod.snd)

/-- The handles in the list of an interface. -/
def handles (s : Session) (nif : Nif) : List Int32 := (s.manager.nif nif).elim [] AgpsStateMachine.handles

end Session

section Machines

variable {m : AgpsManager} {nif : Nif} {sm : AgpsStateMachine} (p : MachineM Unit)

theorem nif_setNif (other : Nif) : (m.setNif sm nif).nif other = if other = nif then some sm else m.nif other := by
  cases nif <;> cases other <;> rfl

theorem onMachine_of_some (found : m.nif nif = some sm) :
    (onMachine nif p).next m = m.setNif (p.next sm) nif ∧
    (onMachine nif p).emitted m = (p.emitted sm).map fun call => (nif, call) := by
  simp only [onMachine, Emit.next, Emit.emitted, found, and_self]

theorem onMachine_of_none (missing : m.nif nif = none) :
    (onMachine nif p).next m = m ∧ (onMachine nif p).emitted m = [] := by
  simp only [onMachine, Emit.next, Emit.emitted, missing, and_self]

theorem nif_onMachine (other : Nif) :
    ((onMachine nif p).next m).nif other = if other = nif then (m.nif nif).map p.next else m.nif other := by
  cases here : m.nif nif with
  | none =>
    rw [(onMachine_of_none p here).1]
    split_ifs with same
    · rw [same, here]; rfl
    · rfl
  | some sm => rw [(onMachine_of_some p here).1, nif_setNif]; rfl

/-- What one program keeps in its machine holds in all machines after it. -/
theorem forall_onMachine {P : AgpsStateMachine → Prop} (all : ∀ nif sm, m.nif nif = some sm → P sm)
    (keep : ∀ sm, m.nif nif = some sm → P sm → P (p.next sm)) :
    ∀ other sm, ((onMachine nif p).next m).nif other = some sm → P sm := by
  intro other sm found
  rw [nif_onMachine] at found
  split_ifs at found
  · obtain ⟨old, here, rfl⟩ := Option.map_eq_some_iff.mp found
    exact keep old here (all nif old here)
  · exact all other sm found

/-- A request for an interface that has a machine. -/
theorem after_requestATL {s : Session} {useEmergencyPdn : UInt32} {connHandle : Int32} {agpsType : Int8}
    {apnTypeMask : UInt32} {sm : AgpsStateMachine}
    (found : s.manager.nif (getAgpsStateMachine (withoutEmergency useEmergencyPdn agpsType apnTypeMask).1) = some sm) :
    s.after (requestATL useEmergencyPdn connHandle agpsType apnTypeMask) =
      s.after (onMachine (getAgpsStateMachine (withoutEmergency useEmergencyPdn agpsType apnTypeMask).1)
        (subscribeTo connHandle (withoutEmergency useEmergencyPdn agpsType apnTypeMask).1
          (withoutEmergency useEmergencyPdn agpsType apnTypeMask).2)) := by
  simp [requestATL, Session.after, found]

/-- A release finds its subscriber in the list of some machine, or does nothing. -/
theorem after_releaseATL (s : Session) (connHandle : Int32) :
    s.after (releaseATL connHandle) = s ∨
      ∃ nif sm, ∃ subscriber ∈ sm.subscriberList, s.manager.nif nif = some sm ∧
        s.after (releaseATL connHandle) = s.after (onMachine nif (processAgpsEventUnsubscribe subscriber)) := by
  have listed {nif : Nif} {subscriber : AgpsSubscriber} (found : s.manager.findSubscriber connHandle nif =
    some subscriber) :
      ∃ sm, subscriber ∈ sm.subscriberList ∧ s.manager.nif nif = some sm := by
    obtain ⟨sm, here, got⟩ := Option.bind_eq_some_iff.mp found
    exact ⟨sm, List.mem_of_find?_eq_some got, here⟩
  cases first : s.manager.findSubscriber connHandle .agnss with
  | some subscriber =>
    obtain ⟨sm, member, here⟩ := listed first
    exact .inr ⟨.agnss, sm, subscriber, member, here, by simp [releaseATL, Session.after, first]⟩
  | none =>
    cases second : s.manager.findSubscriber connHandle .internet with
    | some subscriber =>
      obtain ⟨sm, member, here⟩ := listed second
      exact .inr ⟨.internet, sm, subscriber, member, here, by simp [releaseATL, Session.after, first, second]⟩
    | none => exact .inl (by simp [releaseATL, Session.after, first, second])

theorem after_bind (s : Session) (p q : ManagerM Unit) : s.after (p >>= fun _ => q) = (s.after p).after q := by
  simp [Session.after]

theorem after_onMachine_missing {s : Session} {nif : Nif} (p : MachineM Unit) (missing : s.manager.nif nif = none) :
    s.after (onMachine nif p) = s := by
  rw [Session.after, (onMachine_of_none p missing).1, (onMachine_of_none p missing).2, List.append_nil]

/-- The machines are fresh at the start. -/
theorem start_nif {capabilities atlType : UInt32} {masks : Nif → UInt32} {nif : Nif} {sm : AgpsStateMachine}
    (found : (Session.start capabilities atlType masks).manager.nif nif = some sm) :
    sm.subscriberList = [] ∧ sm.state = .released := by
  cases nif with
  | agnss =>
    simp only [Session.start, AgpsManager.createAgpsStateMachines, AgpsManager.nif] at found
    split_ifs at found
    cases found
    exact ⟨rfl, rfl⟩
  | internet =>
    simp only [Session.start, AgpsManager.createAgpsStateMachines, AgpsManager.nif] at found
    split_ifs at found
    cases found
    exact ⟨rfl, rfl⟩

end Machines

section Order

/-- The handles that are requested in a run. -/
def requestedHandles (msgs : List AtlMsg) : List Int32 :=
  msgs.filterMap fun
    | .requestATL _ connHandle _ _ => some connHandle
    | _ => none

/-- Every handle that was requested is in one list and has heard what its machine's state says, or in none
and its request has ended. -/
structure Coherent (requested : List Int32) (s : Session) : Prop where
  machines : ∀ nif, ∃ sm, s.manager.nif nif = some sm
  tracks : ∀ nif sm, s.manager.nif nif = some sm → Tracks s.history sm
  apart : ∀ nif other h, nif ≠ other → h ∈ s.handles nif → h ∉ s.handles other
  listed : ∀ nif h, h ∈ s.handles nif → h ∈ requested
  ended : ∀ h, (∀ nif, h ∉ s.handles nif) → h ∈ requested → Ended (s.history h)
  unknown : ∀ h, h ∉ requested → s.history h = []

variable {requested : List Int32} {s : Session}

theorem history_onMachine {nif : Nif} {sm : AgpsStateMachine} (p : MachineM Unit) (found : s.manager.nif nif = some sm)
    (h : Int32) : (s.after (onMachine nif p)).history h = s.history h ++ callbacks h (p.emitted sm) := by
  rw [Session.history, Session.after, (onMachine_of_some p found).2, List.map_append, callbacks_append, List.map_map]
  exact congrArg (_ ++ callbacks h ·) (List.map_id _)

theorem handles_onMachine {nif : Nif} {sm : AgpsStateMachine} (p : MachineM Unit) (found : s.manager.nif nif = some sm)
    (other : Nif) : (s.after (onMachine nif p)).handles other =
      if other = nif then (p.next sm).handles else s.handles other := by
  rw [Session.handles, Session.after, (onMachine_of_some p found).1, nif_setNif]
  split_ifs
  · rfl
  · rfl

theorem handles_eq {nif : Nif} {sm : AgpsStateMachine} (found : s.manager.nif nif = some sm) :
    s.handles nif = sm.handles := by
  rw [Session.handles, found]
  rfl

namespace Coherent

variable {nif : Nif} {sm : AgpsStateMachine} {p : MachineM Unit} {new : List Int32}

/-- What the other machines list is neither in the machine nor new. -/
theorem elsewhere (coherent : Coherent requested s) (found : s.manager.nif nif = some sm)
    (fresh : ∀ h ∈ new, h ∉ requested) {other : Nif} {h : Int32} (different : other ≠ nif)
    (member : h ∈ s.handles other) : h ∉ sm.handles ∧ h ∉ new := by
  constructor
  · rw [← handles_eq found]
    exact coherent.apart other nif h different member
  · exact fun isNew => fresh h isNew (coherent.listed other h member)

theorem tracks_onMachine (coherent : Coherent requested s) (found : s.manager.nif nif = some sm)
    (fresh : ∀ h ∈ new, h ∉ requested) (advances : Advances new s.history sm (p.next sm) (p.emitted sm))
    {other : Nif} {sm' : AgpsStateMachine} (found' : (s.after (Agps.onMachine nif p)).manager.nif other = some sm') :
    Tracks (s.after (Agps.onMachine nif p)).history sm' := by
  have history := history_onMachine p found
  rw [Session.after, (onMachine_of_some p found).1, nif_setNif] at found'
  split_ifs at found' with here
  · rw [show (s.after (Agps.onMachine nif p)).history = fun h => s.history h ++ callbacks h (p.emitted sm) from
      funext history, ← Option.some.inj found']
    exact advances.tracks
  · obtain ⟨nodup, heard⟩ := coherent.tracks other sm' found'
    refine ⟨nodup, fun subscriber member => ?_⟩
    have listed : subscriber.connHandle ∈ s.handles other := by
      rw [handles_eq found']
      exact mem_handles.mpr ⟨subscriber, member, rfl⟩
    obtain ⟨unlisted, old⟩ := coherent.elsewhere found fresh here listed
    rw [history, (advances.others _ unlisted old).1, List.append_nil]
    exact heard subscriber member

theorem apart_onMachine (coherent : Coherent requested s) (found : s.manager.nif nif = some sm)
    (fresh : ∀ h ∈ new, h ∉ requested) (advances : Advances new s.history sm (p.next sm) (p.emitted sm))
    {first second : Nif} {h : Int32} (different : first ≠ second)
    (member : h ∈ (s.after (Agps.onMachine nif p)).handles first) :
    h ∉ (s.after (Agps.onMachine nif p)).handles second := by
  have handles := handles_onMachine p found
  rw [handles] at member ⊢
  split_ifs at member ⊢ with secondHere firstHere firstHere
  · exact absurd (firstHere.trans secondHere.symm) different
  · intro also
    obtain ⟨unlisted, old⟩ := coherent.elsewhere found fresh firstHere member
    exact (advances.source also).elim unlisted old
  · intro also
    obtain ⟨unlisted, old⟩ := coherent.elsewhere found fresh secondHere also
    exact (advances.source member).elim unlisted old
  · exact coherent.apart first second h different member

theorem listed_onMachine (coherent : Coherent requested s) (found : s.manager.nif nif = some sm)
    (advances : Advances new s.history sm (p.next sm) (p.emitted sm)) {other : Nif} {h : Int32}
    (member : h ∈ (s.after (Agps.onMachine nif p)).handles other) : h ∈ requested ++ new := by
  rw [handles_onMachine p found] at member
  rw [List.mem_append]
  split_ifs at member
  · exact (advances.source member).imp_left fun listed => coherent.listed nif h (handles_eq found ▸ listed)
  · exact .inl (coherent.listed other h member)

theorem ended_onMachine (coherent : Coherent requested s) (found : s.manager.nif nif = some sm)
    (advances : Advances new s.history sm (p.next sm) (p.emitted sm)) {h : Int32}
    (unlisted : ∀ other, h ∉ (s.after (Agps.onMachine nif p)).handles other) (known : h ∈ requested ++ new) :
    Ended ((s.after (Agps.onMachine nif p)).history h) := by
  have handles := handles_onMachine p found
  have gone : h ∉ (p.next sm).handles := by
    have unlistedHere := unlisted nif
    rwa [handles, if_pos rfl] at unlistedHere
  rw [history_onMachine p found]
  by_cases before : h ∈ sm.handles ∨ h ∈ new
  · exact advances.gone h before gone
  · obtain ⟨unlistedHere, old⟩ := not_or.mp before
    rw [(advances.others h unlistedHere old).1, List.append_nil]
    refine coherent.ended h (fun other => ?_) ((List.mem_append.mp known).resolve_right old)
    rcases eq_or_ne other nif with rfl | different
    · rw [handles_eq found]
      exact unlistedHere
    · have unlistedThere := unlisted other
      rwa [handles, if_neg different] at unlistedThere

/-- A program of one machine that keeps track of its handles. -/
theorem onMachine (coherent : Coherent requested s) (found : s.manager.nif nif = some sm)
    (fresh : ∀ h ∈ new, h ∉ requested) (advances : Advances new s.history sm (p.next sm) (p.emitted sm)) :
    Coherent (requested ++ new) (s.after (Agps.onMachine nif p)) where
  machines other := by
    rw [Session.after, (onMachine_of_some p found).1, nif_setNif]
    split_ifs
    · exact ⟨_, rfl⟩
    · exact coherent.machines other
  tracks _ _ found' := coherent.tracks_onMachine found fresh advances found'
  apart _ _ _ different member := coherent.apart_onMachine found fresh advances different member
  listed _ _ member := coherent.listed_onMachine found advances member
  ended _ unlisted known := coherent.ended_onMachine found advances unlisted known
  unknown h unknown := by
    rw [List.mem_append, not_or] at unknown
    have unlisted : h ∉ sm.handles := fun listed => unknown.1 (coherent.listed nif h (handles_eq found ▸ listed))
    rw [history_onMachine p found, coherent.unknown h unknown.1, (advances.others h unlisted unknown.2).1]
    rfl

end Coherent

theorem coherent_start {capabilities atlType : UInt32} {masks : Nif → UInt32}
    (both : ∀ nif, ((Session.start capabilities atlType masks).manager.nif nif).isSome = true) :
    Coherent [] (.start capabilities atlType masks) := by
  have handles (nif : Nif) : (Session.start capabilities atlType masks).handles nif = [] := by
    obtain ⟨sm, found⟩ := Option.isSome_iff_exists.mp (both nif)
    rw [handles_eq found, AgpsStateMachine.handles, (start_nif found).1]
    rfl
  refine ⟨fun nif => Option.isSome_iff_exists.mp (both nif), fun nif sm found => ⟨?_, ?_⟩, ?_, ?_, ?_, fun _ _ => rfl⟩
  · rw [AgpsStateMachine.handles, (start_nif found).1]
    exact List.nodup_nil
  · rw [(start_nif found).1]
    exact fun _ none => absurd none List.not_mem_nil
  · intro nif other h _ listed
    rw [handles] at listed
    cases listed
  · intro nif h listed
    rw [handles] at listed
    cases listed
  · exact fun _ _ none => absurd none List.not_mem_nil

/-- Every message but a restart keeps track of all handles. -/
theorem coherent_step (coherent : Coherent requested s) (msg : AtlMsg) (noRestart : msg ≠ .handleModemSSR)
    (once : ∀ h ∈ requestedHandles [msg], h ∉ requested) :
    Coherent (requested ++ requestedHandles [msg]) (s.step msg) := by
  cases msg with
  | requestATL useEmergencyPdn connHandle agpsType apnTypeMask =>
    obtain ⟨sm, found⟩ := coherent.machines
      (getAgpsStateMachine (withoutEmergency useEmergencyPdn agpsType apnTypeMask).1)
    have new : connHandle ∉ requested := once connHandle (List.mem_singleton_self connHandle)
    have unlisted : connHandle ∉ sm.handles := by
      rw [← handles_eq found]
      exact fun listed => new (coherent.listed _ connHandle listed)
    rw [Session.step, AtlMsg.proc, after_requestATL found]
    refine coherent.onMachine found once ?_
    exact advances_subscribeTo (coherent.tracks _ sm found) unlisted (coherent.unknown connHandle new) _ _
  | releaseATL connHandle =>
    rw [Session.step, AtlMsg.proc]
    rcases after_releaseATL s connHandle with same | ⟨nif, sm, subscriber, member, found, released⟩
    · rw [same]
      exact (List.append_nil requested).symm ▸ coherent
    · rw [released]
      exact coherent.onMachine found (fun _ none => absurd none List.not_mem_nil)
        (advances_unsubscribe (coherent.tracks nif sm found) member)
  | reportAtlOpenSuccess agpsType apnName apnLen bearerType =>
    obtain ⟨sm, found⟩ := coherent.machines (getAgpsStateMachine agpsType)
    exact coherent.onMachine found (fun _ none => absurd none List.not_mem_nil)
      (advances_openWith (coherent.tracks _ sm found) apnName apnLen bearerType)
  | reportAtlOpenFailed agpsType =>
    obtain ⟨sm, found⟩ := coherent.machines (getAgpsStateMachine agpsType)
    exact coherent.onMachine found (fun _ none => absurd none List.not_mem_nil)
      (advances_denied (coherent.tracks _ sm found))
  | reportAtlClosed agpsType =>
    obtain ⟨sm, found⟩ := coherent.machines (getAgpsStateMachine agpsType)
    exact coherent.onMachine found (fun _ none => absurd none List.not_mem_nil)
      (advances_released (coherent.tracks _ sm found))
  | handleModemSSR => exact absurd rfl noRestart

theorem coherent_run {capabilities atlType : UInt32} {masks : Nif → UInt32}
    (both : ∀ nif, ((Session.start capabilities atlType masks).manager.nif nif).isSome = true) {msgs : List AtlMsg}
    (once : (requestedHandles msgs).Nodup) (noRestart : .handleModemSSR ∉ msgs) :
    Coherent (requestedHandles msgs) (msgs.foldl Session.step (.start capabilities atlType masks)) := by
  induction msgs using List.reverseRecOn with
  | nil => exact coherent_start both
  | append_singleton done msg ih =>
    have split : requestedHandles (done ++ [msg]) = requestedHandles done ++ requestedHandles [msg] :=
      List.filterMap_append
    rw [split] at once ⊢
    rw [List.mem_append, not_or] at noRestart
    rw [List.foldl_append]
    exact coherent_step (ih (List.Nodup.of_append_left once) noRestart.1) msg
      (fun restart => noRestart.2 (List.mem_singleton.mpr restart.symm))
      fun h new old => List.disjoint_of_nodup_append once old new

/-- The request of a handle has failed or its connection was closed. -/
def Over (history : List Callback) : Prop := .openFailure ∈ history ∨ .close ∈ history

instance (history : List Callback) : Decidable (Over history) := inferInstanceAs (Decidable (_ ∨ _))

theorem Ended.over {history : List Callback} (ended : Ended history) : Over history := by
  rcases ended with rfl | rfl | rfl
  · exact .inr (by decide)
  · exact .inl (by decide)
  · exact .inr (by decide)

theorem Coherent.listed_once (coherent : Coherent requested s) {nif : Nif} {h : Int32} (listed : h ∈ s.handles nif) :
    (s.handles .agnss ++ s.handles .internet).count h = 1 := by
  have nodup (nif : Nif) : (s.handles nif).Nodup := by
    obtain ⟨sm, found⟩ := coherent.machines nif
    rw [handles_eq found]
    exact (coherent.tracks nif sm found).nodup
  have apart : (s.handles .agnss ++ s.handles .internet).Nodup :=
    (nodup .agnss).append (nodup .internet) fun h first second =>
      coherent.apart .agnss .internet h (by decide) first second
  refine List.count_eq_one_of_mem apart ?_
  cases nif with
  | agnss => exact List.mem_append_left _ listed
  | internet => exact List.mem_append_right _ listed

theorem Coherent.heard (coherent : Coherent requested s) {nif : Nif} {h : Int32} (listed : h ∈ s.handles nif) :
    s.history h = [] ∨ s.history h = [.openSuccess] := by
  obtain ⟨sm, found⟩ := coherent.machines nif
  rw [handles_eq found] at listed
  obtain ⟨subscriber, member, rfl⟩ := mem_handles.mp listed
  exact ((coherent.tracks nif sm found).heard subscriber member).short

/-- With both machines, no restart and each handle requested at most once: a handle hears of the open and the
close in this order, or of the failure, or of the close alone; it is in one of the lists, once, from its
request until the failure or the close; and the list of a released machine is empty. -/
theorem callbacks_follow_protocol {capabilities atlType : UInt32} {masks : Nif → UInt32}
    (both : ∀ nif, ((Session.start capabilities atlType masks).manager.nif nif).isSome = true) {msgs : List AtlMsg}
    (once : (requestedHandles msgs).Nodup) (noRestart : .handleModemSSR ∉ msgs) :
    let s := msgs.foldl Session.step (.start capabilities atlType masks)
    (∀ h, s.history h <+: [.openSuccess, .close] ∨ s.history h = [.openFailure] ∨ s.history h = [.close]) ∧
    (∀ h, (s.handles .agnss ++ s.handles .internet).count h =
      if h ∈ requestedHandles msgs ∧ ¬ Over (s.history h) then 1 else 0) ∧
    ∀ nif sm, s.manager.nif nif = some sm → sm.state = .released → sm.subscriberList = [] := by
  intro s
  have coherent : Coherent (requestedHandles msgs) s := coherent_run both once noRestart
  refine ⟨fun h => ?_, fun h => ?_, fun nif sm found released => (coherent.tracks nif sm found).list_eq_nil released⟩
  · by_cases listed : ∃ nif, h ∈ s.handles nif
    · obtain ⟨nif, listed⟩ := listed
      rcases coherent.heard listed with heard | heard
      · exact .inl (heard ▸ List.nil_prefix)
      · exact .inl (heard ▸ ⟨[.close], rfl⟩)
    · by_cases known : h ∈ requestedHandles msgs
      · rcases coherent.ended h (not_exists.mp listed) known with ended | ended
        · exact .inl (ended ▸ List.prefix_refl _)
        · exact .inr ended
      · exact .inl (coherent.unknown h known ▸ List.nil_prefix)
  · by_cases listed : ∃ nif, h ∈ s.handles nif
    · obtain ⟨nif, listed⟩ := listed
      rw [coherent.listed_once listed, if_pos]
      refine ⟨coherent.listed nif h listed, ?_⟩
      rcases coherent.heard listed with heard | heard
      · rw [heard]; decide
      · rw [heard]; decide
    · have unlisted := not_exists.mp listed
      have absent : h ∉ s.handles .agnss ++ s.handles .internet := by
        rw [List.mem_append, not_or]
        exact ⟨unlisted .agnss, unlisted .internet⟩
      rw [List.count_eq_zero_of_not_mem absent, if_neg]
      rintro ⟨known, notOver⟩
      exact notOver (coherent.ended h unlisted known).over

/-- Two requests share a connection and hear of its open and its close. -/
theorem callbacks_follow_protocol_shared :
    let msgs : List AtlMsg := [.requestATL 1 10 agpsTypeSupl 0x10, .requestATL 1 11 agpsTypeSuplEs 0x200,
      .reportAtlOpenSuccess agpsTypeSupl (some (ascii "ims")) 3 1, .releaseATL 10, .releaseATL 11,
      .reportAtlClosed agpsTypeSupl]
    let s := msgs.foldl Session.step (.start 6 7 fun _ => 0)
    s.history 10 = [.openSuccess, .close] ∧
    ∀ h, s.history h <+: [.openSuccess, .close] ∨ s.history h = [.openFailure] ∨ s.history h = [.close] := by
  intro msgs s
  have both (nif : Nif) : ((Session.start 6 7 fun _ => 0).manager.nif nif).isSome = true := by
    cases nif <;> rfl
  exact ⟨by decide, (callbacks_follow_protocol both (by decide) (by decide)).1⟩

end Order

section Held

variable {s : Session}

/-- Every machine that has a connection, or waits for one, has an active subscriber. -/
def Session.AllHeld (s : Session) : Prop := ∀ nif sm, s.manager.nif nif = some sm → Held sm

/-- The modem restarts only while no machine has a connection or waits for one. -/
def Session.RestartsIdle (s : Session) : AtlMsg → Prop
  | .handleModemSSR => ∀ nif sm, s.manager.nif nif = some sm → ¬ Connected sm
  | _ => True

/-- No released machine has a subscriber. -/
def Session.AllIdle (s : Session) : Prop := ∀ nif sm, s.manager.nif nif = some sm → Idle sm

theorem allIdle_onMachine {nif : Nif} {p : MachineM Unit} (keeps : ∀ sm, KeepsHeld sm (p.next sm)) (idle : s.AllIdle) :
    (s.after (onMachine nif p)).AllIdle :=
  forall_onMachine p idle fun sm _ => (keeps sm).idle

theorem allHeld_onMachine {nif : Nif} {p : MachineM Unit} (keeps : ∀ sm, KeepsHeld sm (p.next sm)) (idle : s.AllIdle)
    (held : s.AllHeld) : (s.after (onMachine nif p)).AllHeld :=
  forall_onMachine p held fun sm found => (keeps sm).held (idle nif sm found)

/-- Every message but a restart runs one program that keeps both, or none. -/
theorem step_keepsHeld {msg : AtlMsg} (noRestart : msg ≠ .handleModemSSR) :
    (s.step msg).manager = s.manager ∨ ∃ nif p, (∀ sm, KeepsHeld sm (p.next sm)) ∧ s.step msg =
    s.after (onMachine nif p) := by
  cases msg with
  | requestATL useEmergencyPdn connHandle agpsType apnTypeMask =>
    cases found : s.manager.nif (getAgpsStateMachine (withoutEmergency useEmergencyPdn agpsType apnTypeMask).1) with
    | none => exact .inl (by simp [Session.step, Session.after, AtlMsg.proc, requestATL, found])
    | some sm =>
      exact .inr ⟨_, _, fun sm => keepsHeld_subscribeTo connHandle _ _, after_requestATL found⟩
  | releaseATL connHandle =>
    rcases after_releaseATL s connHandle with same | ⟨nif, sm, subscriber, -, -, released⟩
    · exact .inl (congrArg Session.manager same)
    · exact .inr ⟨nif, _, fun sm => keepsHeld_unsubscribe subscriber, released⟩
  | reportAtlOpenSuccess agpsType apnName apnLen bearerType =>
    exact .inr ⟨_, _, fun sm => keepsHeld_openWith apnName apnLen bearerType, rfl⟩
  | reportAtlOpenFailed agpsType => exact .inr ⟨_, _, fun sm => keepsHeld_denied, rfl⟩
  | reportAtlClosed agpsType => exact .inr ⟨_, _, fun sm => keepsHeld_released, rfl⟩
  | handleModemSSR => exact absurd rfl noRestart

/-- A restart empties the lists and keeps the states. -/
theorem nif_restart (nif : Nif) : (s.step .handleModemSSR).manager.nif nif =
    (s.manager.nif nif).map dropAllSubscribers := by
  rw [Session.step, Session.after, AtlMsg.proc, handleModemSSR, Emit.next_bind, nif_onMachine, nif_onMachine,
    nif_onMachine]
  cases nif <;> rfl

theorem allIdle_step (idle : s.AllIdle) (msg : AtlMsg) : (s.step msg).AllIdle := by
  by_cases restart : msg = .handleModemSSR
  · subst restart
    intro nif sm found released
    rw [nif_restart] at found
    obtain ⟨old, -, rfl⟩ := Option.map_eq_some_iff.mp found
    rfl
  · rcases step_keepsHeld restart with same | ⟨nif, p, keeps, step⟩
    · rw [Session.AllIdle, same]; exact idle
    · rw [step]; exact allIdle_onMachine keeps idle

theorem allHeld_step (idle : s.AllIdle) (held : s.AllHeld) (msg : AtlMsg) :
    (s.step msg).AllHeld ↔ s.RestartsIdle msg := by
  by_cases restart : msg = .handleModemSSR
  · subst restart
    constructor
    · intro after nif sm found connected
      have none := after nif sm.dropAllSubscribers (by rw [nif_restart, found]; rfl) connected
      cases none
    · intro unconnected nif sm found connected
      rw [nif_restart] at found
      obtain ⟨old, here, rfl⟩ := Option.map_eq_some_iff.mp found
      exact absurd connected (unconnected nif old here)
  · have allowed : s.RestartsIdle msg := by
      cases msg with
      | handleModemSSR => exact absurd rfl restart
      | _ => trivial
    refine iff_of_true ?_ allowed
    rcases step_keepsHeld restart with same | ⟨nif, p, keeps, step⟩
    · rw [Session.AllHeld, same]; exact held
    · rw [step]; exact allHeld_onMachine keeps idle held

/-- Throughout a run every machine that has a connection, or waits for one, has an active subscriber exactly
when the modem restarts in it only while no machine has a connection or waits for one. -/
theorem allHeld_throughout_iff (capabilities atlType : UInt32) (masks : Nif → UInt32) (msgs : List AtlMsg) :
    Throughout Session.step Session.AllHeld (.start capabilities atlType masks) msgs ↔
      EachStep Session.step Session.RestartsIdle (.start capabilities atlType masks) msgs := by
  have idle : (Session.start capabilities atlType masks).AllIdle := fun nif sm found _ => (start_nif found).1
  have start : (Session.start capabilities atlType masks).AllHeld :=
    fun nif sm found connected => absurd connected (not_connected (.inl (start_nif found).2))
  exact throughout_iff_eachStep idle (fun s msg idle => allIdle_step idle msg) start
    fun s msg idle held => allHeld_step idle held msg

/-- A restart while the connection is requested leaves it requested for nobody. -/
theorem restart_leaves_connection : ¬ Throughout Session.step Session.AllHeld (.start 6 7 fun _ => 0)
    [.requestATL 1 10 agpsTypeSupl 0x10, .handleModemSSR] := by
  intro always
  have held := always _ (List.prefix_refl _) .agnss _ rfl (.inl rfl)
  cases held

end Held

section Statuses

variable {s : Session}

/-- The statuses that the machine of an interface has sent to the framework. -/
def Session.statuses (s : Session) (nif : Nif) : List (AgpsStatusValue × Int8 × UInt32) :=
  Agps.statuses ((s.calls.filter fun call => call.1 = nif).map Prod.snd)

/-- The type and the mask of the latest request among some statuses. -/
def lastRequest (sent : List (AgpsStatusValue × Int8 × UInt32)) : Option (Int8 × UInt32) :=
  sent.foldl (fun last status => if status.1 = .requestAgpsDataConn then some status.2 else last) none

/-- Every release names the type and the mask of the latest request before it. -/
def ReleasesMatch (sent : List (AgpsStatusValue × Int8 × UInt32)) : Prop :=
  ∀ done connection rest, sent = done ++ (.releaseAgpsDataConn, connection) :: rest → lastRequest done = some connection

/-- A request that joins a connection asks for its type and its mask. -/
def Session.JoinsAlike (s : Session) : AtlMsg → Prop
  | .requestATL useEmergencyPdn _ agpsType apnTypeMask =>
    ∀ sm, s.manager.nif (getAgpsStateMachine (withoutEmergency useEmergencyPdn agpsType apnTypeMask).1) = some sm →
      Connected sm → withoutEmergency useEmergencyPdn agpsType apnTypeMask = (sm.agpsType, sm.apnTypeMask)
  | _ => True

/-- All releases match, and the latest request of a connected machine was for its type and mask. -/
structure Session.Matched (s : Session) : Prop where
  releases : ∀ nif, ReleasesMatch (s.statuses nif)
  current : ∀ nif sm, s.manager.nif nif = some sm → Connected sm →
    lastRequest (s.statuses nif) = some (sm.agpsType, sm.apnTypeMask)

theorem lastRequest_append_singleton (sent : List (AgpsStatusValue × Int8 × UInt32)) (status : AgpsStatusValue)
    (connection : Int8 × UInt32) : lastRequest (sent ++ [(status, connection)]) =
      if status = .requestAgpsDataConn then some connection else lastRequest sent := by
  rw [lastRequest, List.foldl_append]
  rfl

theorem releasesMatch_append_singleton {sent : List (AgpsStatusValue × Int8 × UInt32)} (sentMatch : ReleasesMatch sent)
    {status : AgpsStatusValue} {connection : Int8 × UInt32}
    (last : status = .releaseAgpsDataConn → lastRequest sent = some connection) :
    ReleasesMatch (sent ++ [(status, connection)]) := by
  intro done released rest split
  rcases List.eq_nil_or_concat rest with rfl | ⟨rest, final, rfl⟩
  · obtain ⟨rfl, same⟩ := List.append_inj' split rfl
    cases same
    exact last rfl
  · rw [List.concat_eq_append, ← List.cons_append, ← List.append_assoc] at split
    exact sentMatch done released rest (List.append_inj' split rfl).1

theorem statuses_onMachine {nif : Nif} {sm : AgpsStateMachine} (p : MachineM Unit) (found : s.manager.nif nif = some sm)
    (other : Nif) : (s.after (onMachine nif p)).statuses other =
      if other = nif then s.statuses other ++ Agps.statuses (p.emitted sm) else s.statuses other := by
  rw [Session.statuses, Session.after, (onMachine_of_some p found).2, List.filter_append, List.map_append,
    statuses_append]
  split_ifs with same
  · subst same
    simp [Session.statuses, List.filter_map, Function.comp_def]
  · have none : ((p.emitted sm).map fun call => (nif, call)).filter (fun call => call.1 = other) = [] := by
      simp [List.filter_eq_nil_iff, Ne.symm same]
    rw [none]
    exact List.append_nil _

theorem matched_onMachine (isMatched : s.Matched) {nif : Nif} {p : MachineM Unit}
    (announces : ∀ sm, s.manager.nif nif = some sm → Announces sm (p.next sm) (p.emitted sm)) :
    (s.after (onMachine nif p)).Matched := by
  cases found : s.manager.nif nif with
  | none => rw [after_onMachine_missing p found]; exact isMatched
  | some sm =>
    have before := isMatched.current nif sm found
    constructor
    · intro other
      rw [statuses_onMachine p found]
      split_ifs with same
      · subst same
        cases announces sm found with
        | nothing silent _ => rw [silent, List.append_nil]; exact isMatched.releases other
        | request sent => rw [sent]; exact releasesMatch_append_singleton (isMatched.releases other) nofun
        | release sent connected _ =>
          rw [sent]
          exact releasesMatch_append_singleton (isMatched.releases other) fun _ => before connected
      · exact isMatched.releases other
    · intro other sm' found' connected
      rw [statuses_onMachine p found]
      rw [Session.after, (onMachine_of_some p found).1, nif_setNif] at found'
      split_ifs at found' ⊢ with same
      · subst same
        cases found'
        cases announces sm found with
        | nothing silent same =>
          obtain ⟨was, agpsType, apnTypeMask⟩ := same connected
          rw [silent, List.append_nil, agpsType, apnTypeMask]
          exact before was
        | request sent => rw [sent, lastRequest_append_singleton, if_pos rfl]
        | release _ _ after => exact absurd connected after
      · exact isMatched.current other sm' found' connected

theorem requestATL_missing {useEmergencyPdn : UInt32} {agpsType : Int8} {apnTypeMask : UInt32}
    (missing : s.manager.nif (getAgpsStateMachine (withoutEmergency useEmergencyPdn agpsType apnTypeMask).1) = none)
    (connHandle : Int32) :
    (s.after (requestATL useEmergencyPdn connHandle agpsType apnTypeMask)).manager = s.manager ∧
    ∀ nif, (s.after (requestATL useEmergencyPdn connHandle agpsType apnTypeMask)).statuses nif = s.statuses nif := by
  constructor
  · simp [Session.after, requestATL, missing]
  · intro nif
    simp [Session.after, requestATL, missing, Session.statuses, statuses, AgpsCall.status]

/-- A message keeps the releases matched if it does not join a connection with another type or mask. -/
theorem matched_step (isMatched : s.Matched) {msg : AtlMsg} (alike : s.JoinsAlike msg) : (s.step msg).Matched := by
  cases msg with
  | requestATL useEmergencyPdn connHandle agpsType apnTypeMask =>
    cases found : s.manager.nif (getAgpsStateMachine (withoutEmergency useEmergencyPdn agpsType apnTypeMask).1) with
    | none =>
      obtain ⟨manager, sent⟩ : (s.after (requestATL useEmergencyPdn connHandle agpsType apnTypeMask)).manager =
        s.manager ∧
          ∀ nif, (s.after (requestATL useEmergencyPdn connHandle agpsType apnTypeMask)).statuses nif = s.statuses nif :=
        requestATL_missing found connHandle
      rw [Session.step, AtlMsg.proc]
      refine ⟨fun nif => ?_, fun nif sm => ?_⟩
      · rw [sent]; exact isMatched.releases nif
      · rw [manager, sent]; exact isMatched.current nif sm
    | some sm =>
      rw [Session.step, AtlMsg.proc, after_requestATL found]
      exact matched_onMachine isMatched fun sm found => announces_subscribeTo connHandle (alike sm found)
  | releaseATL connHandle =>
    rw [Session.step, AtlMsg.proc]
    rcases after_releaseATL s connHandle with same | ⟨nif, sm, subscriber, -, -, released⟩
    · rw [same]; exact isMatched
    · rw [released]; exact matched_onMachine isMatched fun sm _ => announces_unsubscribe subscriber
  | reportAtlOpenSuccess agpsType apnName apnLen bearerType =>
    exact matched_onMachine isMatched fun sm _ => announces_openWith apnName apnLen bearerType
  | reportAtlOpenFailed agpsType => exact matched_onMachine isMatched fun sm _ => announces_denied
  | reportAtlClosed agpsType => exact matched_onMachine isMatched fun sm _ => announces_released
  | handleModemSSR =>
    have dropped (sm : AgpsStateMachine) : Announces sm sm.dropAllSubscribers [] :=
      .nothing rfl fun connected => ⟨connected, rfl, rfl⟩
    have first : (s.after (onMachine .agnss (Emit.modify dropAllSubscribers))).Matched :=
      matched_onMachine isMatched fun sm _ => dropped sm
    rw [Session.step, AtlMsg.proc, handleModemSSR, after_bind]
    exact matched_onMachine first fun sm _ => dropped sm

/-- In a run where every request that joins a connection asks for its type and mask, every release carries the
type and mask of the latest request that its machine sent. -/
theorem releases_match_throughout (capabilities atlType : UInt32) (masks : Nif → UInt32) {msgs : List AtlMsg}
    (alike : EachStep Session.step Session.JoinsAlike (.start capabilities atlType masks) msgs) :
    Throughout Session.step (fun s => ∀ nif, ReleasesMatch (s.statuses nif)) (.start capabilities atlType masks) msgs := by
  have start : (Session.start capabilities atlType masks).Matched := by
    constructor
    · intro nif done connection rest split
      simp [Session.statuses, Session.start, statuses] at split
    · exact fun nif sm found connected => absurd connected (not_connected (.inl (start_nif found).2))
  have matchedThroughout : Throughout Session.step Session.Matched (.start capabilities atlType masks) msgs :=
    throughout_of_eachStep start (fun s msg isMatched alike => matched_step isMatched alike) alike
  exact fun done reached => (matchedThroughout done reached).releases

/-- Two requests for one type and mask share a connection. -/
theorem releases_match_shared :
    let msgs : List AtlMsg := [.requestATL 1 10 agpsTypeSupl 0x10, .requestATL 1 11 agpsTypeSupl 0x10, .releaseATL 10,
      .releaseATL 11]
    (msgs.foldl Session.step (.start 6 7 fun _ => 0)).statuses .agnss =
      [(.requestAgpsDataConn, agpsTypeSupl, 0x10), (.releaseAgpsDataConn, agpsTypeSupl, 0x10)] ∧
    Throughout Session.step (fun s => ∀ nif, ReleasesMatch (s.statuses nif)) (.start 6 7 fun _ => 0) msgs := by
  intro msgs
  refine ⟨by decide, releases_match_throughout 6 7 (fun _ => 0) ?_⟩
  refine eachStep_cons (fun sm found connected => ?_) (eachStep_cons (fun sm found _ => ?_)
    (eachStep_cons trivial (eachStep_cons trivial eachStep_nil)))
  · cases found
    rcases connected with connected | connected <;> cases connected
  · cases found
    rfl

/-- An emergency request that joins the connection of another changes what is released in the end. -/
theorem release_of_other_connection : ¬ Throughout Session.step (fun s => ∀ nif, ReleasesMatch (s.statuses nif))
    (.start 6 7 fun _ => 0) [.requestATL 1 10 agpsTypeSupl 0x10, .requestATL 1 11 agpsTypeSuplEs 0x200, .releaseATL 10,
      .releaseATL 11] := by
  intro always
  have last := always _ (List.prefix_refl _) .agnss [(.requestAgpsDataConn, agpsTypeSupl, 0x10)] (agpsTypeSuplEs, 0x200)
    [] rfl
  exact absurd last (by decide)

end Statuses

end Cypfr.Agps
