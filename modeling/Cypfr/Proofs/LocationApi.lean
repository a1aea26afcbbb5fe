import Cypfr.Model.LocationApi

/-! # What a step does to one client object

Everything that the library and its adapters hold of one object, and the kinds of change that a step makes to it.
-/

namespace Cypfr.LocationApi

/-- What an adapter still has to do with a client. -/
inductive Due where
  | add (a : Adapter)
  | remove (a : Adapter)
deriving DecidableEq

def Due.adapter : Due → Adapter
  | .add a => a
  | .remove a => a

/-- What is held of one object: whether it is there, the user may use it, the adapters that are yet to remove it, those
that keep it, what waits for it in the message queue, and the ends of `destroy` and of removals that are yet to come. -/
@[ext] structure View (Callback : Type) where
  alive : Bool
  registered : Bool
  waits : Option (LocationAPIDestroyCbData Callback)
  loaded : Adapter → Bool
  kept : Adapter → Bool
  due : List Due
  ending : List (Option Callback)

/-- All adapters. -/
def Adapter.all : List Adapter := [.gnss, .batching, .geofence]

theorem Adapter.mem_all (a : Adapter) : a ∈ Adapter.all := by
  cases a <;> decide

/-- The bits of some adapters. -/
def maskOf (has : Adapter → Bool) : UInt16 :=
  (if has .gnss then Adapter.typeBit .gnss else 0) |||
    (if has .batching then Adapter.typeBit .batching else 0) |||
      (if has .geofence then Adapter.typeBit .geofence else 0)

theorem maskOf_eq_zero_iff {has : Adapter → Bool} : maskOf has = 0 ↔ ∀ a, has a = false := by
  have all : (∀ a, has a = false) ↔ has .gnss = false ∧ has .batching = false ∧ has .geofence = false := by
    constructor
    · exact fun none => ⟨none _, none _, none _⟩
    · rintro ⟨gnss, batching, geofence⟩ a
      cases a <;> assumption
  rw [all, maskOf]
  generalize has .gnss = gnss
  generalize has .batching = batching
  generalize has .geofence = geofence
  revert gnss batching geofence
  decide

theorem maskOf_clear (has : Adapter → Bool) (a : Adapter) :
    maskOf has &&& ~~~ a.typeBit = maskOf (Function.update has a false) := by
  cases a <;> simp only [maskOf, Function.update_self, Function.update_of_ne, ne_eq, reduceCtorEq, not_false_eq_true]
  all_goals
    generalize has .gnss = gnss
    generalize has .batching = batching
    generalize has .geofence = geofence
    revert gnss batching geofence
    decide

namespace View

variable {Callback : Type}

/-- Whether an interface is loaded. -/
def needToWait (v : View Callback) : Bool := v.loaded .gnss || v.loaded .batching || v.loaded .geofence

/-- More is to be done with the object. -/
def expect (more : List Due) (v : View Callback) : View Callback := { v with due := v.due ++ more }

theorem expect_nil (v : View Callback) : v.expect [] = v := by
  rw [expect, List.append_nil]

theorem expect_expect (first more : List Due) (v : View Callback) :
    (v.expect first).expect more = v.expect (first ++ more) := by
  rw [expect, expect, expect, List.append_assoc]

/-- A user destroys the object. -/
def drop (cb : Option Callback) (v : View Callback) : View Callback :=
  { v with
    registered := false
    waits := if cb.isSome && v.needToWait then some { waitAdapterMask := maskOf v.loaded, destroyCompleteCb := cb }
      else v.waits
    due := v.due ++ (Adapter.all.filter v.loaded).map .remove
    ending := if v.needToWait then v.ending else v.ending ++ [cb] }

/-- An adapter reports that it removed the object. -/
def release (a : Adapter) (v : View Callback) : View Callback :=
  match v.waits with
  | none => v
  | some data =>
    let waitAdapterMask := data.waitAdapterMask &&& ~~~ a.typeBit
    if waitAdapterMask = 0 then { v with waits := none, ending := data.destroyCompleteCb :: v.ending }
    else { v with waits := some { data with waitAdapterMask } }

/-- Adapters were loaded and some are to add the object. -/
structure Joins (v v' : View Callback) (adds : List Adapter) : Prop where
  view : v' = { v.expect (adds.map .add) with loaded := v'.loaded }
  more : ∀ a, v.loaded a = true → v'.loaded a = true
  there : ∀ a ∈ adds, v'.loaded a = true

theorem Joins.refl (v : View Callback) : Joins v v [] :=
  ⟨by rw [List.map_nil, expect_nil], fun _ => id, nofun⟩

theorem Joins.trans {v v' v'' : View Callback} {adds more : List Adapter} (first : Joins v v' adds)
    (second : Joins v' v'' more) : Joins v v'' (adds ++ more) := by
  refine ⟨?_, fun a before => second.more a (first.more a before), fun a member => ?_⟩
  · rw [second.view, first.view, List.map_append, ← expect_expect]
    rfl
  · rcases List.mem_append.mp member with early | late
    · exact second.more a (first.there a early)
    · exact second.there a late

/-- The changes that a step other than a call of `destroy` can make to what is held of an object; after a call of an
empty function the process has ended. -/
inductive Change (aborted : Bool) (v : View Callback) : View Callback → Prop
  | joined {v' : View Callback} {adds : List Adapter} (joins : Joins v v' adds)
      (known : adds = [] ∨ v.registered = true) : Change aborted v v'
  | created {v' : View Callback} {adds : List Adapter} (fresh : v.alive = false) (joins : Joins v v' adds) :
      Change aborted v { v' with alive := true, registered := true }
  | added {a : Adapter} {rest : List Due} (head : v.due = .add a :: rest) :
      Change aborted v { v with due := rest, kept := Function.update v.kept a true }
  | removed {a : Adapter} {rest : List Due} (head : v.due = .remove a :: rest) :
      Change aborted v ({ v with due := rest, kept := Function.update v.kept a false }.release a)
  | ended {cb : Option Callback} {rest : List (Option Callback)} (perm : v.ending.Perm (cb :: rest))
      (calls : cb = none → aborted = true) :
      Change aborted v { v with alive := if cb.isNone then v.alive else false, ending := rest }

theorem Change.none {aborted : Bool} (v : View Callback) : Change aborted v v := .joined (.refl v) (.inl rfl)

end View

variable {Client Callback : Type} [LinearOrder Client] {available : Adapter → Bool} {s : System Client Callback}
  {p client : Client} {callbacks : LocationCallbacks} {a : Adapter}

/-- What a message is to an object. -/
def LocMsg.due (p : Client) : LocMsg Client → Option Due
  | .addClient a client _ => if client = p then some (.add a) else none
  | .removeClient a client => if client = p then some (.remove a) else none
  | .requestCapabilities _ _ | .handleEngineUpEvent _ => none

namespace System

/-- Whether an adapter keeps a client. -/
def kept (s : System Client Callback) (p : Client) (a : Adapter) : Bool :=
  (s.interface a).any fun adapter => adapter.mClientData.contains p

/-- What is held of an object. -/
def view (s : System Client Callback) (p : Client) : View Callback where
  alive := s.alive p
  registered := s.clientData.contains p
  waits := s.destroyClientData.find? p
  loaded := s.loaded
  kept := s.kept p
  due := s.msgTask.filterMap (LocMsg.due p)
  ending := ((s.completing.toList ++ s.leaving).filter fun entry => entry.1 = p).map Prod.snd

theorem view_sendMsg (msg : LocMsg Client) :
    (s.sendMsg msg).view p = (s.view p).expect (msg.due p).toList := by
  have due : (s.msgTask ++ [msg]).filterMap (LocMsg.due p) =
      s.msgTask.filterMap (LocMsg.due p) ++ (msg.due p).toList := by
    rw [List.filterMap_append]
    cases known : msg.due p with
    | none => rw [List.filterMap_cons_none known]; rfl
    | some => rw [List.filterMap_cons_some known]; rfl
  rw [view, sendMsg, due]
  rfl

theorem view_sendMsg_other (msg : LocMsg Client) (other : msg.due p = none) : (s.sendMsg msg).view p = s.view p := by
  rw [view_sendMsg, other, Option.toList_none, View.expect_nil]

/-- Loading an interface makes an adapter without clients, if anything. -/
theorem loadLocationInterface_eq (available : Adapter → Bool) (a : Adapter) (s : System Client Callback) :
    ∃ interface loadFailed, s.loadLocationInterface available a = { s with interface, loadFailed } ∧
      ∀ b, interface b = s.interface b ∨
        s.interface b = none ∧ ∀ adapter ∈ interface b, adapter.mClientData = .empty := by
  rw [loadLocationInterface]
  split
  · exact ⟨s.interface, s.loadFailed, rfl, fun _ => .inl rfl⟩
  · next absent =>
    split
    · refine ⟨_, s.loadFailed, rfl, fun b => ?_⟩
      by_cases same : b = a
      · subst same
        refine .inr ⟨?_, ?_⟩
        · cases known : s.interface b with
          | none => rfl
          | some => exact absurd (by rw [loaded, known]; rfl) absent
        · rw [Function.update_self]
          rintro adapter ⟨⟩
          rfl
      · exact .inl (Function.update_of_ne same ..)
    · exact ⟨s.interface, _, rfl, fun _ => .inl rfl⟩

theorem view_loadLocationInterface (available : Adapter → Bool) (a : Adapter) (s : System Client Callback)
    (p : Client) :
    View.Joins (s.view p) ((s.loadLocationInterface available a).view p) [] := by
  obtain ⟨interface, loadFailed, eq, each⟩ := loadLocationInterface_eq available a s
  rw [eq]
  have kept : System.kept { s with interface, loadFailed } p = s.kept p := by
    funext b
    rw [System.kept, System.kept]
    rcases each b with same | ⟨none, empty⟩
    · exact congrArg _ same
    · dsimp only
      rw [none]
      cases found : interface b with
      | none => rfl
      | some adapter =>
        rw [Option.any_some, empty adapter found]
        rfl
  refine ⟨?_, fun b before => ?_, nofun⟩
  · rw [view, kept, List.map_nil, View.expect_nil]
    rfl
  · rcases each b with same | ⟨none, -⟩
    · exact (congrArg Option.isSome same).trans before
    · have absent : s.loaded b = false := by rw [loaded, none]; rfl
      exact absurd (absent.symm.trans before) Bool.false_ne_true

/-- One adapter's part in creating or updating a client. -/
theorem joins_addClient (available : Adapter → Bool) (client : Client) (callbacks : LocationCallbacks) (a : Adapter)
    (s : System Client Callback) (p : Client) :
    ∃ adds, View.Joins (s.view p) ((s.addClient available client callbacks a).view p) adds ∧
      (client ≠ p → adds = []) := by
  rw [addClient]
  split
  · have load := view_loadLocationInterface available a s p
    dsimp only
    split
    · next present =>
      rw [view_sendMsg, LocMsg.due]
      split
      · refine ⟨[a], load.trans ⟨rfl, fun _ => id, fun b only => ?_⟩, fun other => absurd ‹_› other⟩
        rw [List.mem_singleton.mp only]
        exact present
      · refine ⟨[], ?_, fun _ => rfl⟩
        rw [Option.toList_none, View.expect_nil]
        exact load
    · exact ⟨[], load, fun _ => rfl⟩
  · exact ⟨[], .refl _, fun _ => rfl⟩

/-- A request for the capabilities is nothing that an adapter is to do with a client. -/
theorem view_enroll (before : System Client Callback × Bool) :
    (enroll available client callbacks before a).1.view p =
      (before.1.addClient available client callbacks a).view p := by
  rw [enroll]
  split
  · exact view_sendMsg_other _ rfl
  · rfl

theorem joins_updates (available : Adapter → Bool) (client : Client) (callbacks : LocationCallbacks) (p : Client)
    (adapters : List Adapter) (s : System Client Callback) :
    ∃ adds,
      View.Joins (s.view p) ((adapters.foldl (fun s a => s.addClient available client callbacks a) s).view p) adds ∧
        (client ≠ p → adds = []) := by
  induction adapters generalizing s with
  | nil => exact ⟨[], .refl _, fun _ => rfl⟩
  | cons a rest ih =>
    obtain ⟨early, first, ownFirst⟩ := joins_addClient available client callbacks a s p
    obtain ⟨late, later, ownLater⟩ := ih (s.addClient available client callbacks a)
    exact ⟨early ++ late, first.trans later, fun other => by rw [ownFirst other, ownLater other]; rfl⟩

theorem joins_enrolls (available : Adapter → Bool) (client : Client) (callbacks : LocationCallbacks) (p : Client)
    (adapters : List Adapter) (before : System Client Callback × Bool) :
    ∃ adds, View.Joins (before.1.view p)
        ((adapters.foldl (enroll available client callbacks) before).1.view p) adds ∧ (client ≠ p → adds = []) := by
  induction adapters generalizing before with
  | nil => exact ⟨[], .refl _, fun _ => rfl⟩
  | cons a rest ih =>
    obtain ⟨early, first, ownFirst⟩ := joins_addClient available client callbacks a before.1 p
    obtain ⟨late, later, ownLater⟩ := ih (enroll available client callbacks before a)
    rw [view_enroll] at later
    exact ⟨early ++ late, first.trans later, fun other => by rw [ownFirst other, ownLater other]; rfl⟩

theorem view_removeClients (client p : Client) (adapters : List Adapter) (s : System Client Callback) :
    (adapters.foldl (removeClient client) s).view p =
      (s.view p).expect (if client = p then (adapters.filter s.loaded).map .remove else []) := by
  induction adapters generalizing s with
  | nil =>
    rw [List.filter_nil, List.map_nil, ite_self, View.expect_nil]
    rfl
  | cons a rest ih =>
    rw [List.foldl_cons, ih, removeClient]
    by_cases present : s.loaded a = true
    · have loaded : (s.sendMsg (.removeClient a client)).loaded = s.loaded := rfl
      rw [if_pos present, view_sendMsg, loaded, List.filter_cons_of_pos present, View.expect_expect, LocMsg.due]
      split <;> rfl
    · rw [if_neg present, List.filter_cons_of_neg present]

theorem removeClients_eq (client : Client) (adapters : List Adapter) (s : System Client Callback) :
    ∃ msgTask, adapters.foldl (removeClient client) s = { s with msgTask } := by
  induction adapters generalizing s with
  | nil => exact ⟨s.msgTask, rfl⟩
  | cons a rest ih =>
    obtain ⟨msgTask, later⟩ := ih (s.removeClient client a)
    rw [List.foldl_cons, later, removeClient]
    split
    · exact ⟨msgTask, rfl⟩
    · exact ⟨msgTask, rfl⟩

theorem contains_erase {m : SortedMap Client LocationCallbacks} :
    (m.erase client).contains p = if client = p then false else m.contains p := by
  rw [SortedMap.contains, SortedMap.find?_erase]
  by_cases same : client = p
  · rw [if_pos same.symm, if_pos same]
    rfl
  · rw [if_neg (Ne.symm same), if_neg same]
    rfl

theorem filter_ending (entry : Client × Option Callback) (entries : List (Client × Option Callback)) :
    ((entries ++ [entry]).filter fun entry => entry.1 = p).map Prod.snd =
      (entries.filter fun entry => entry.1 = p).map Prod.snd ++ if entry.1 = p then [entry.2] else [] := by
  rw [List.filter_append, List.map_append]
  by_cases same : entry.1 = p
  · have kept : [entry].filter (fun entry => entry.1 = p) = [entry] := List.filter_cons_of_pos (decide_eq_true same)
    rw [if_pos same, kept]
    rfl
  · have lost : [entry].filter (fun entry => entry.1 = p) = [] := by
      refine List.filter_cons_of_neg ?_
      rw [decide_eq_true_eq]
      exact same
    rw [if_neg same, lost]
    rfl

/-- A user destroys an object that the library knows. -/
theorem view_drop (cb : Option Callback) :
    (s.drop client cb).view p = if client = p then (s.view p).drop cb else s.view p := by
  obtain ⟨waits, waitsEq, found⟩ : ∃ waits : SortedMap Client (LocationAPIDestroyCbData Callback),
      (if cb.isSome && s.needToWait then
        { s with destroyClientData := s.destroyClientData.insert client
                  { waitAdapterMask := s.adapterMask, destroyCompleteCb := cb } }
      else s) = { s with destroyClientData := waits } ∧
        waits.find? p = if client = p then ((s.view p).drop cb).waits else s.destroyClientData.find? p := by
    by_cases wait : (cb.isSome && s.needToWait) = true
    · have waits : ((s.view p).drop cb).waits = some { waitAdapterMask := s.adapterMask, destroyCompleteCb := cb } :=
        if_pos wait
      refine ⟨_, if_pos wait, ?_⟩
      rw [SortedMap.find?_insert, waits]
      exact if_congr eq_comm rfl rfl
    · have waits : ((s.view p).drop cb).waits = s.destroyClientData.find? p := if_neg wait
      refine ⟨s.destroyClientData, if_neg wait, ?_⟩
      rw [waits, ite_self]
  have removes := view_removeClients client p Adapter.all { s with destroyClientData := waits }
  obtain ⟨msgTask, removed⟩ := removeClients_eq client Adapter.all { s with destroyClientData := waits }
  have final : s.drop client cb =
      { s with
        destroyClientData := waits
        msgTask
        clientData := s.clientData.erase client
        leaving := if s.needToWait then s.leaving else s.leaving ++ [(client, cb)] } := by
    rw [drop]
    dsimp only
    rw [waitsEq, show [Adapter.gnss, .batching, .geofence] = Adapter.all from rfl, removed]
  rw [removed] at removes
  have due := congrArg View.due removes
  have ending : ((s.completing.toList ++ (if s.needToWait then s.leaving else s.leaving ++ [(client, cb)])).filter
      fun entry => entry.1 = p).map Prod.snd =
        if client = p then ((s.view p).drop cb).ending else (s.view p).ending := by
    by_cases wait : s.needToWait = true
    · have same : ((s.view p).drop cb).ending = (s.view p).ending := if_pos wait
      rw [if_pos wait, same, ite_self]
      rfl
    · have more : ((s.view p).drop cb).ending = (s.view p).ending ++ [cb] := if_neg wait
      rw [if_neg wait, more, ← List.append_assoc, filter_ending]
      split
      · rfl
      · rw [List.append_nil]
        rfl
  rw [final]
  by_cases own : client = p
  · rw [if_pos own] at found due ending ⊢
    exact View.ext rfl (contains_erase.trans (if_pos own)) found rfl rfl due ending
  · rw [if_neg own] at found due ending ⊢
    exact View.ext rfl (contains_erase.trans (if_neg own)) found rfl rfl (due.trans (List.append_nil _)) ending

theorem interface_modifyAdapter (f : LocAdapterBase Client → LocAdapterBase Client) :
    (s.modifyAdapter a f).interface = Function.update s.interface a ((s.interface a).map f) := rfl

/-- Changing the data of an adapter changes what is held of an object only where it keeps it. -/
theorem view_modifyAdapter (f : LocAdapterBase Client → LocAdapterBase Client) (keeps : Bool)
    (found : ((s.interface a).any fun adapter => (f adapter).mClientData.contains p) = keeps) :
    (s.modifyAdapter a f).view p = { s.view p with kept := Function.update (s.kept p) a keeps } := by
  have loaded : (s.modifyAdapter a f).loaded = s.loaded := by
    funext b
    rw [System.loaded, System.loaded, interface_modifyAdapter]
    by_cases same : b = a
    · subst same
      rw [Function.update_self, Option.isSome_map]
    · rw [Function.update_of_ne same]
  have kept : (s.modifyAdapter a f).kept p = Function.update (s.kept p) a keeps := by
    funext b
    rw [System.kept, interface_modifyAdapter]
    by_cases same : b = a
    · subst same
      rw [Function.update_self, Function.update_self, Option.any_map]
      exact found
    · rw [Function.update_of_ne same, Function.update_of_ne same]
      rfl
  exact View.ext rfl rfl rfl loaded kept rfl rfl

theorem view_modifyAdapter_same (f : LocAdapterBase Client → LocAdapterBase Client)
    (same : ∀ adapter, (f adapter).mClientData.contains p = adapter.mClientData.contains p) :
    (s.modifyAdapter a f).view p = s.view p := by
  have found : ((s.interface a).any fun adapter => (f adapter).mClientData.contains p) = s.kept p a := by
    rw [funext same]
    rfl
  rw [view_modifyAdapter f _ found, Function.update_eq_self]
  rfl

/-- An adapter reports that it removed an object, while no removal is under way. -/
theorem view_onRemoveClientCompleteCb (idle : s.completing = none) :
    (s.onRemoveClientCompleteCb a client).view p = if client = p then (s.view p).release a else s.view p := by
  rw [onRemoveClientCompleteCb]
  cases found : s.destroyClientData.find? client with
  | none =>
    dsimp only
    by_cases own : client = p
    · subst own
      have waits : (s.view client).waits = none := found
      rw [if_pos rfl, View.release, waits]
    · rw [if_neg own]
  | some data =>
    have ending : (s.view p).ending = (s.leaving.filter fun entry => entry.1 = p).map Prod.snd := by
      rw [view, idle]
      rfl
    dsimp only
    by_cases own : client = p
    · subst own
      have waits : (s.view client).waits = some data := found
      rw [if_pos rfl, View.release, waits]
      dsimp only
      split
      · refine View.ext rfl rfl (SortedMap.find?_erase.trans (if_pos rfl)) rfl rfl rfl ?_
        rw [ending]
        exact congrArg (List.map Prod.snd) (List.filter_cons_of_pos (decide_eq_true rfl))
      · exact View.ext rfl rfl SortedMap.find?_insert_self rfl rfl rfl rfl
    · rw [if_neg own]
      split
      · refine View.ext rfl rfl (SortedMap.find?_erase_of_ne (Ne.symm own)) rfl rfl rfl ?_
        rw [ending]
        refine congrArg (List.map Prod.snd) (List.filter_cons_of_neg ?_)
        rw [decide_eq_true_eq]
        exact own
      · exact View.ext rfl rfl (SortedMap.find?_insert_of_ne (Ne.symm own)) rfl rfl rfl rfl

/-- The end of a removal, in a process that is there. -/
theorem next_complete (cb : Option Callback) (running : s.aborted = false) :
    (complete client cb).next s =
      if cb.isNone then { s with aborted := true } else { s with alive := Function.update s.alive client false } := by
  cases cb with
  | none => rfl
  | some cb =>
    have on : (complete client (some cb) : SystemM Client Callback Unit).next s =
        (if s.aborted then s else { s with alive := Function.update s.alive client false }) := by
      cases known : s.aborted <;> simp [complete, known]
    rw [on, running]
    rfl

/-- What the end of a removal does to what is held of an object, in a state in which the removal is no longer due. -/
theorem view_complete (cb : Option Callback) (running : s.aborted = false) :
    ((complete client cb).next s).view p =
      { s.view p with alive := if client = p then (if cb.isNone then s.alive p else false) else s.alive p } := by
  rw [next_complete cb running]
  cases cb with
  | none => exact View.ext (ite_self _).symm rfl rfl rfl rfl rfl rfl
  | some cb =>
    refine View.ext ?_ rfl rfl rfl rfl rfl rfl
    by_cases own : client = p
    · subst own
      exact (Function.update_self ..).trans (if_pos rfl).symm
    · exact (Function.update_of_ne (Ne.symm own) ..).trans (if_neg own).symm

end System

/-- What holds of the calls of users and of the memory that `new` gives. -/
def System.Valid (s : System Client Callback) : Event Client Callback → Prop
  | .createInstance client _ => s.alive client = false
  | .updateCallbacks client _ => s.clientData.contains client = true
  | .destroy client _ => s.alive client = true
  | .task | .finish _ | .engineUp _ => True

theorem contains_insert {m : SortedMap Client LocationCallbacks} :
    (m.insert client callbacks).contains p = if client = p then true else m.contains p := by
  rw [SortedMap.contains, SortedMap.find?_insert]
  by_cases same : client = p
  · rw [if_pos same.symm, if_pos same]
    rfl
  · rw [if_neg (Ne.symm same), if_neg same]
    rfl

namespace System

theorem next_createInstance : (createInstance available client callbacks).next s =
    if callbacks.hasMandatory then
      let before : System Client Callback :=
        { s with alive := Function.update s.alive client true, gOSFrameworkRefCount := s.gOSFrameworkRefCount + 1 }
      let enrolled := (Adapter.all.foldl (enroll available client callbacks) (before, false)).1
      { enrolled with clientData := enrolled.clientData.insert client callbacks }
    else s := by
  rw [createInstance]
  split
  · rw [Emit.next_bind, Emit.next_modify, Emit.next_get_bind]
    dsimp only
    split <;> rfl
  · rfl

theorem next_updateCallbacks : (updateCallbacks available client callbacks).next s =
    if callbacks.hasMandatory then
      let added := Adapter.all.foldl (fun s a => s.addClient available client callbacks a) s
      { added with clientData := added.clientData.insert client callbacks }
    else s := by
  rw [updateCallbacks]
  split <;> rfl

theorem next_destroy (cb : Option Callback) : (destroy client cb).next s =
    let dropped := if s.clientData.contains client then s.drop client cb else s
    { dropped with gOSFrameworkRefCount := dropped.gOSFrameworkRefCount - 1 } := by
  rw [destroy, Emit.next_bind, Emit.next_modify, Emit.next_get_bind]
  dsimp only
  split
  · split <;> rfl
  · split <;> rfl

theorem change_createInstance {aborted : Bool} (fresh : s.alive client = false) :
    View.Change aborted (s.view p) (((createInstance available client callbacks).next s).view p) := by
  rw [next_createInstance]
  split
  · dsimp only
    generalize before : ({ s with alive := Function.update s.alive client true
                                  gOSFrameworkRefCount := s.gOSFrameworkRefCount + 1 } : System Client Callback) = t
    obtain ⟨adds, joins, own⟩ := joins_enrolls available client callbacks p Adapter.all (t, false)
    generalize (Adapter.all.foldl (enroll available client callbacks) (t, false)).1 = enrolled at joins ⊢
    dsimp only at joins
    have final : ({ enrolled with clientData := enrolled.clientData.insert client callbacks } : System _ _).view p =
        { enrolled.view p with registered := if client = p then true else (enrolled.view p).registered } :=
      View.ext rfl contains_insert rfl rfl rfl rfl rfl
    rw [final]
    subst before
    by_cases same : client = p
    · subst same
      have alive : (enrolled.view client).alive = true := by
        rw [joins.view]
        exact Function.update_self ..
      have joined : View.Joins (s.view client) { enrolled.view client with alive := s.alive client } adds :=
        ⟨by rw [joins.view]; rfl, joins.more, joins.there⟩
      rw [if_pos rfl]
      have created : ({ enrolled.view client with registered := true } : View Callback) =
          { { enrolled.view client with alive := s.alive client } with alive := true, registered := true } :=
        View.ext alive rfl rfl rfl rfl rfl rfl
      rw [created]
      exact .created fresh joined
    · have before : System.view { s with alive := Function.update s.alive client true
                                         gOSFrameworkRefCount := s.gOSFrameworkRefCount + 1 } p = s.view p :=
        View.ext (Function.update_of_ne (Ne.symm same) ..) rfl rfl rfl rfl rfl rfl
      rw [own same, before] at joins
      rw [if_neg same]
      exact .joined joins (.inl rfl)
  · exact .none _

theorem change_updateCallbacks {aborted : Bool} (known : s.clientData.contains client = true) :
    View.Change aborted (s.view p) (((updateCallbacks available client callbacks).next s).view p) := by
  rw [next_updateCallbacks]
  split
  · dsimp only
    obtain ⟨adds, joins, own⟩ := joins_updates available client callbacks p Adapter.all s
    generalize Adapter.all.foldl (fun s a => s.addClient available client callbacks a) s = added at joins ⊢
    have final : ({ added with clientData := added.clientData.insert client callbacks } : System _ _).view p =
        { added.view p with registered := if client = p then true else (added.view p).registered } :=
      View.ext rfl contains_insert rfl rfl rfl rfl rfl
    rw [final]
    by_cases same : client = p
    · subst same
      have registered : (added.view client).registered = true := by
        rw [joins.view]
        exact known
      rw [if_pos rfl, ← registered]
      exact .joined joins (.inr known)
    · rw [if_neg same]
      exact .joined joins (.inl (own same))
  · exact .none _

theorem view_destroy (cb : Option Callback) : ((destroy client cb).next s).view p =
    if client = p ∧ s.clientData.contains p = true then (s.view p).drop cb else s.view p := by
  rw [next_destroy]
  dsimp only
  have final (t : System Client Callback) :
      System.view { t with gOSFrameworkRefCount := t.gOSFrameworkRefCount - 1 } p = t.view p := rfl
  rw [final]
  by_cases known : s.clientData.contains client = true
  · rw [if_pos known, view_drop]
    by_cases own : client = p
    · subst own
      rw [if_pos rfl, if_pos ⟨rfl, known⟩]
    · rw [if_neg own, if_neg fun both => own both.1]
  · have unknown : ¬ (client = p ∧ s.clientData.contains p = true) := by
      rintro ⟨rfl, known'⟩
      exact known known'
    rw [if_neg known, if_neg unknown]

/-- The entry of a removal whose end comes. -/
theorem change_complete {v : View Callback} (cb : Option Callback) (running : s.aborted = false)
    {rest : List (Option Callback)} (view : s.view p = { v with ending := rest })
    (perm : v.ending.Perm (if client = p then cb :: rest else rest)) (same : client ≠ p → v.ending = rest) :
    View.Change ((complete client cb).next s).aborted v (((complete client cb).next s).view p) := by
  have calls (empty : cb = none) : ((complete client cb).next s).aborted = true := by
    rw [next_complete cb running, empty]
    rfl
  rw [view_complete cb running, view]
  have alive : s.alive p = v.alive := congrArg View.alive view
  rw [alive]
  split
  · next own =>
    rw [if_pos own] at perm
    exact .ended perm calls
  · next other =>
    rw [← same other]
    exact .none _

/-- The ends that are due for an object, with and without an entry. -/
theorem ending_middle (entry : Client × Option Callback) (front back : List (Client × Option Callback)) :
    (((front ++ entry :: back).filter fun entry => entry.1 = p).map Prod.snd).Perm
        (if entry.1 = p then entry.2 :: ((front ++ back).filter fun entry => entry.1 = p).map Prod.snd
        else ((front ++ back).filter fun entry => entry.1 = p).map Prod.snd) ∧
      (entry.1 ≠ p → ((front ++ entry :: back).filter fun entry => entry.1 = p).map Prod.snd =
        ((front ++ back).filter fun entry => entry.1 = p).map Prod.snd) := by
  rw [List.filter_append, List.filter_append]
  by_cases own : entry.1 = p
  · refine ⟨?_, fun other => absurd own other⟩
    have kept : (entry :: back).filter (fun entry => entry.1 = p) = entry :: back.filter fun entry => entry.1 = p :=
      List.filter_cons_of_pos (decide_eq_true own)
    rw [if_pos own, kept, List.map_append, List.map_append]
    exact List.perm_middle
  · have lost : (entry :: back).filter (fun entry => entry.1 = p) = back.filter fun entry => entry.1 = p := by
      refine List.filter_cons_of_neg ?_
      rw [decide_eq_true_eq]
      exact own
    rw [if_neg own, lost]
    exact ⟨.rfl, fun _ => rfl⟩

theorem change_finish (running : s.aborted = false) :
    View.Change ((finish client).next s).aborted (s.view p) (((finish client).next s).view p) := by
  rw [finish, Emit.next_get_bind]
  cases found : s.leaving.find? fun entry => entry.1 = client with
  | none => exact .none _
  | some entry =>
    obtain ⟨this, cb⟩ := entry
    obtain ⟨own, front, back, leaving, before⟩ := List.find?_eq_some_iff_append.mp found
    obtain rfl : this = client := of_decide_eq_true own
    have erased : (s.leaving.eraseP fun entry => entry.1 = this) = front ++ back := by
      have pass (entry : Client × Option Callback) (member : entry ∈ front) : ¬ decide (entry.1 = this) = true :=
        Bool.eq_false_iff.mp ((Bool.not_eq_true' _).mp (before entry member))
      have gone : (((this, cb) :: back).eraseP fun entry => entry.1 = this) = back := List.eraseP_cons_of_pos own
      rw [leaving, List.eraseP_append_right _ pass, gone]
    obtain ⟨perm, same⟩ := ending_middle (p := p) (this, cb) (s.completing.toList ++ front) back
    rw [List.append_assoc, List.append_assoc, ← leaving] at perm same
    dsimp only
    rw [Emit.next_bind, Emit.next_modify, erased]
    exact change_complete cb running (View.ext rfl rfl rfl rfl rfl rfl rfl) perm same

theorem next_broadcastCapabilities (adapter : LocAdapterBase Client) :
    (broadcastCapabilities adapter : SystemM Client Callback Unit).next s = s := by
  rw [broadcastCapabilities, Emit.next_forM]
  induction adapter.mClientData.entries with
  | nil => rfl
  | cons entry rest ih =>
    rw [List.foldl_cons, Emit.next_ite, Emit.next_emit, Emit.next_pure, ite_self]
    exact ih

theorem view_requestCapabilities :
    ((LocMsg.proc (.requestCapabilities a client) : SystemM Client Callback Unit).next s).view p = s.view p := by
  rw [LocMsg.proc, Emit.next_get_bind]
  cases s.interface a with
  | none => rfl
  | some adapter =>
    dsimp only
    split
    · cases adapter.mClientData.find? client with
      | none => rfl
      | some callbacks =>
        dsimp only
        split <;> rfl
    · exact view_modifyAdapter_same _ fun _ => rfl

theorem view_handleEngineUpEvent :
    ((LocMsg.proc (.handleEngineUpEvent a) : SystemM Client Callback Unit).next s).view p = s.view p := by
  rw [LocMsg.proc, Emit.next_get_bind]
  cases s.interface a with
  | none => rfl
  | some adapter =>
    dsimp only
    rw [Emit.next_bind, Emit.next_modify, Emit.next_bind, next_broadcastCapabilities, Emit.next_bind, Emit.next_modify,
      Emit.next_modify]
    refine (view_modifyAdapter_same _ fun adapter => ?_).trans ?_
    · rfl
    have known : (s.modifyAdapter a fun adapter => { adapter with mIsEngineCapabilitiesKnown := true }).view p =
        s.view p := view_modifyAdapter_same _ fun _ => rfl
    rw [← known]
    refine View.ext rfl rfl rfl rfl rfl ?_ rfl
    have none : (adapter.mPendingMsgs.map (LocMsg.requestCapabilities a)).filterMap (LocMsg.due p) = [] := by
      refine List.filterMap_eq_nil_iff.mpr fun msg member => ?_
      obtain ⟨client, -, rfl⟩ := List.mem_map.mp member
      rfl
    refine List.filterMap_append.trans ?_
    rw [none, List.append_nil]
    rfl

/-- The task takes a message, while no removal is under way. -/
theorem change_proc {aborted : Bool} {msg : LocMsg Client} {rest : List (LocMsg Client)} (idle : s.completing = none)
    (head : s.msgTask = msg :: rest) (there : ∀ d ∈ (s.view p).due, s.loaded d.adapter = true) :
    View.Change aborted (s.view p) ((msg.proc.next { s with msgTask := rest }).view p) := by
  have due : (s.view p).due = (msg.due p).toList ++ rest.filterMap (LocMsg.due p) := by
    rw [view, head]
    dsimp only
    cases known : msg.due p with
    | none => rw [List.filterMap_cons_none known]; rfl
    | some => rw [List.filterMap_cons_some known]; rfl
  have view : System.view { s with msgTask := rest } p = { s.view p with due := rest.filterMap (LocMsg.due p) } := rfl
  have same (nothing : msg.due p = none) : System.view { s with msgTask := rest } p = s.view p := by
    rw [nothing, Option.toList_none, List.nil_append] at due
    rw [view, ← due]
  cases msg with
  | addClient a client callbacks =>
    rw [LocMsg.proc, Emit.next_modify]
    by_cases own : client = p
    · subst own
      have head : (s.view client).due = .add a :: rest.filterMap (LocMsg.due client) := by
        rw [due, LocMsg.due, if_pos rfl]
        rfl
      have present : s.loaded a = true := there (.add a) (by rw [head]; exact List.mem_cons_self)
      obtain ⟨adapter, known⟩ := Option.isSome_iff_exists.mp present
      rw [view_modifyAdapter _ true (by dsimp only; rw [known]; exact contains_insert.trans (if_pos rfl)), view]
      exact .added head
    · rw [view_modifyAdapter_same _ fun _ => contains_insert.trans (if_neg own), same (if_neg own)]
      exact .none _
  | removeClient a client =>
    rw [LocMsg.proc, Emit.next_bind, Emit.next_modify, Emit.next_modify,
      view_onRemoveClientCompleteCb (by exact idle)]
    by_cases own : client = p
    · subst own
      have head : (s.view client).due = .remove a :: rest.filterMap (LocMsg.due client) := by
        rw [due, LocMsg.due, if_pos rfl]
        rfl
      have gone : ((s.interface a).any fun adapter => (adapter.mClientData.erase client).contains client) = false := by
        cases s.interface a with
        | none => rfl
        | some adapter => exact contains_erase.trans (if_pos rfl)
      rw [if_pos rfl, view_modifyAdapter _ false gone, view]
      exact .removed head
    · rw [if_neg own, view_modifyAdapter_same _ fun _ => contains_erase.trans (if_neg own), same (if_neg own)]
      exact .none _
  | requestCapabilities a client =>
    rw [view_requestCapabilities, same rfl]
    exact .none _
  | handleEngineUpEvent a =>
    rw [view_handleEngineUpEvent, same rfl]
    exact .none _

theorem change_runTask (running : s.aborted = false) (there : ∀ d ∈ (s.view p).due, s.loaded d.adapter = true) :
    View.Change (runTask.next s).aborted (s.view p) ((runTask.next s).view p) := by
  rw [runTask, Emit.next_get_bind]
  cases completing : s.completing with
  | some entry =>
    obtain ⟨client, cb⟩ := entry
    obtain ⟨perm, same⟩ := ending_middle (p := p) (client, cb) [] s.leaving
    have before : (s.view p).ending = (((client, cb) :: s.leaving).filter fun entry => entry.1 = p).map Prod.snd := by
      rw [view, completing]
      rfl
    rw [List.nil_append, ← before] at perm same
    dsimp only
    rw [Emit.next_bind, Emit.next_modify]
    exact change_complete cb running (View.ext rfl rfl rfl rfl rfl rfl rfl) perm same
  | none =>
    dsimp only
    cases head : s.msgTask with
    | nil => exact .none _
    | cons msg rest => exact change_proc completing head there

theorem step_running {e : Event Client Callback} (running : s.aborted = false) :
    s.step available e = (e.run available).next s := by
  rw [step, Event.happen, Emit.next_get_bind, running]
  rfl

/-- In a process that has ended nothing happens. -/
theorem step_aborted {e : Event Client Callback} (ended : s.aborted = true) : s.step available e = s := by
  rw [step, Event.happen, Emit.next_get_bind, ended]
  rfl

/-- What a step other than a call of `destroy` does to an object is one of the changes above. -/
theorem step_change {e : Event Client Callback} (running : s.aborted = false) (valid : s.Valid e)
    (other : ∀ client cb, e ≠ .destroy client cb) (there : ∀ d ∈ (s.view p).due, s.loaded d.adapter = true) :
    View.Change (s.step available e).aborted (s.view p) ((s.step available e).view p) := by
  rw [step_running running]
  cases e with
  | createInstance client callbacks => exact change_createInstance valid
  | updateCallbacks client callbacks => exact change_updateCallbacks valid
  | destroy client cb => exact absurd rfl (other client cb)
  | task => exact change_runTask running there
  | finish client => exact change_finish running
  | engineUp a =>
    rw [Event.run, Emit.next_modify]
    split
    · have same : System.view { s.sendMsg (.handleEngineUpEvent a) with sIsEngineCapabilitiesKnown := true } p =
          (s.sendMsg (.handleEngineUpEvent a)).view p := rfl
      rw [same, view_sendMsg_other _ rfl]
      exact .none _
    · exact .none _

end System

end Cypfr.LocationApi
