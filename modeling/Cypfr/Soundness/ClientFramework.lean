import Cypfr.Soundness.ClientObjects

/-! # The framework is there while there are clients

`createInstance` counts the clients up and `destroy` counts them down, and the framework is made for the first client
and ended for the last. A second `destroy` of one object counts a client that is not there.
-/

namespace Cypfr.LocationApi.System

open Machine

variable {Client Callback : Type} [LinearOrder Client] {available : Adapter → Bool} {s : System Client Callback}
  {e : Event Client Callback} {events done : List (Event Client Callback)} {client : Client}
  {callbacks : LocationCallbacks} {cb : Option Callback}

/-- The count is that of the clients in use. -/
def Counted (s : System Client Callback) : Prop := s.gOSFrameworkRefCount = UInt32.ofNat s.clientData.size

/-- A step destroys only a client that is in use. -/
def DestroysUsed (s : System Client Callback) (e : Event Client Callback) : Prop :=
  s.aborted = false → ∀ client cb, e = .destroy client cb → s.clientData.contains client = true

/-- The state of the framework after a call, unless it is made twice or ended twice. -/
def framework (up : Option Bool) : Output Client Callback → Option Bool
  | .createOSFramework => if up = some false then some true else none
  | .destroyOSFramework => if up = some true then some false else none
  | .capabilitiesCb _ | .destroyCompleteCb _ | .delete _ => up

theorem outputs_append (s : System Client Callback) :
    outputs available s (done ++ [e]) =
      outputs available s done ++ (e.happen available).emitted (done.foldl (step available) s) := by
  induction done generalizing s with
  | nil => exact List.append_nil _
  | cons first rest ih =>
    rw [List.cons_append, outputs, ih, outputs, List.append_assoc]
    rfl

/-- The count and the table of clients, which only `createInstance`, `updateCallbacks` and `destroy` change. -/
def counts (s : System Client Callback) : UInt32 × SortedMap Client LocationCallbacks :=
  (s.gOSFrameworkRefCount, s.clientData)

theorem counts_addClient (available : Adapter → Bool) (client : Client) (callbacks : LocationCallbacks) (a : Adapter)
    (s : System Client Callback) : (s.addClient available client callbacks a).counts = s.counts := by
  obtain ⟨interface, loadFailed, eq, -⟩ := loadLocationInterface_eq available a s
  rw [addClient]
  split
  · dsimp only
    rw [eq]
    split <;> rfl
  · rfl

theorem counts_enrolls (available : Adapter → Bool) (client : Client) (callbacks : LocationCallbacks)
    (adapters : List Adapter) (before : System Client Callback × Bool) :
    (adapters.foldl (enroll available client callbacks) before).1.counts = before.1.counts := by
  induction adapters generalizing before with
  | nil => rfl
  | cons a rest ih =>
    rw [List.foldl_cons, ih, ← counts_addClient available client callbacks a before.1, enroll]
    split <;> rfl

theorem counts_updates (available : Adapter → Bool) (client : Client) (callbacks : LocationCallbacks)
    (adapters : List Adapter) (s : System Client Callback) :
    (adapters.foldl (fun s a => s.addClient available client callbacks a) s).counts = s.counts := by
  induction adapters generalizing s with
  | nil => rfl
  | cons a rest ih => rw [List.foldl_cons, ih, counts_addClient]

theorem counts_createInstance (available : Adapter → Bool) (client : Client) (s : System Client Callback)
    (asked : callbacks.hasMandatory = true) :
    ((createInstance available client callbacks).next s).counts =
      (s.gOSFrameworkRefCount + 1, s.clientData.insert client callbacks) := by
  rw [next_createInstance, if_pos asked]
  dsimp only
  generalize before : ({ s with alive := Function.update s.alive client true
                                gOSFrameworkRefCount := s.gOSFrameworkRefCount + 1 } : System Client Callback) = t
  obtain ⟨count, table⟩ := Prod.mk.inj (counts_enrolls available client callbacks Adapter.all (t, false))
  subst before
  exact Prod.ext count (congrArg (fun table => table.insert client callbacks) table)

theorem counts_updateCallbacks (available : Adapter → Bool) (client : Client) (callbacks : LocationCallbacks)
    (s : System Client Callback) : ((updateCallbacks available client callbacks).next s).counts =
    (s.gOSFrameworkRefCount,
      if callbacks.hasMandatory then s.clientData.insert client callbacks else s.clientData) := by
  rw [next_updateCallbacks]
  split
  · obtain ⟨count, table⟩ := Prod.mk.inj (counts_updates available client callbacks Adapter.all s)
    exact Prod.ext count (congrArg (fun table => table.insert client callbacks) table)
  · rfl

theorem counts_drop (client : Client) (cb : Option Callback) (s : System Client Callback) :
    (s.drop client cb).counts = (s.gOSFrameworkRefCount, s.clientData.erase client) := by
  have removed (t : System Client Callback) :
      ([Adapter.gnss, .batching, .geofence].foldl (removeClient client) t).counts = t.counts := by
    obtain ⟨msgTask, eq⟩ := removeClients_eq client Adapter.all t
    exact (congrArg counts eq).trans rfl
  rw [drop]
  dsimp only
  split
  · obtain ⟨count, table⟩ := Prod.mk.inj (removed { s with
      destroyClientData := s.destroyClientData.insert client
        { waitAdapterMask := s.adapterMask, destroyCompleteCb := cb } })
    exact Prod.ext count (congrArg (fun table => table.erase client) table)
  · obtain ⟨count, table⟩ := Prod.mk.inj (removed s)
    exact Prod.ext count (congrArg (fun table => table.erase client) table)

theorem counts_destroy (client : Client) (cb : Option Callback) (s : System Client Callback) :
    ((destroy client cb).next s).counts =
    (s.gOSFrameworkRefCount - 1, if s.clientData.contains client then s.clientData.erase client else s.clientData) := by
  rw [next_destroy]
  dsimp only
  split
  · obtain ⟨count, table⟩ := Prod.mk.inj (counts_drop client cb s)
    exact Prod.ext (congrArg (· - 1) count) table
  · rfl

theorem counts_proc (msg : LocMsg Client) : (msg.proc.next s).counts = s.counts := by
  cases msg with
  | addClient a client callbacks => rfl
  | removeClient a client =>
    rw [LocMsg.proc, Emit.next_bind, Emit.next_modify, Emit.next_modify, onRemoveClientCompleteCb]
    split
    · rfl
    · dsimp only
      split <;> rfl
  | requestCapabilities a client =>
    rw [LocMsg.proc, Emit.next_get_bind]
    split
    · rfl
    · split
      · split
        · rfl
        · split <;> rfl
      · rfl
  | handleEngineUpEvent a =>
    rw [LocMsg.proc, Emit.next_get_bind]
    split
    · rfl
    · rw [Emit.next_bind, Emit.next_modify, Emit.next_bind, next_broadcastCapabilities]
      rfl

theorem counts_complete (running : s.aborted = false) : ((complete client cb).next s).counts = s.counts := by
  rw [next_complete cb running]
  split <;> rfl

theorem counts_runTask (running : s.aborted = false) :
    ((runTask : SystemM Client Callback Unit).next s).counts = s.counts := by
  rw [runTask, Emit.next_get_bind]
  split
  · rw [Emit.next_bind, Emit.next_modify, counts_complete (by exact running)]
    rfl
  · split
    · rfl
    · rw [Emit.next_bind, Emit.next_modify, counts_proc]
      rfl

theorem counts_finish (running : s.aborted = false) : ((finish client).next s).counts = s.counts := by
  rw [finish, Emit.next_get_bind]
  split
  · rfl
  · rw [Emit.next_bind, Emit.next_modify, counts_complete (by exact running)]
    rfl

/-- A step that neither creates nor destroys a client keeps the count and how many clients there are. -/
theorem counted_other (available : Adapter → Bool) (running : s.aborted = false) (valid : s.Valid e)
    (creates : ∀ client callbacks, e ≠ .createInstance client callbacks)
    (destroys : ∀ client cb, e ≠ .destroy client cb) :
    (s.step available e).gOSFrameworkRefCount = s.gOSFrameworkRefCount ∧
      (s.step available e).clientData.size = s.clientData.size := by
  have of_same (same : (s.step available e).counts = s.counts) :
      (s.step available e).gOSFrameworkRefCount = s.gOSFrameworkRefCount ∧
        (s.step available e).clientData.size = s.clientData.size := by
    obtain ⟨count, table⟩ := Prod.mk.inj same
    exact ⟨count, congrArg SortedMap.size table⟩
  rw [step_running running] at of_same ⊢
  cases e with
  | createInstance client callbacks => exact absurd rfl (creates client callbacks)
  | destroy client cb => exact absurd rfl (destroys client cb)
  | updateCallbacks client callbacks =>
    obtain ⟨count, table⟩ := Prod.mk.inj (counts_updateCallbacks available client callbacks s)
    refine ⟨count, (congrArg SortedMap.size table).trans ?_⟩
    split
    · exact SortedMap.size_insert_of_mem (SortedMap.contains_iff.mp valid)
    · rfl
  | task => exact of_same (counts_runTask running)
  | finish client => exact of_same (counts_finish running)
  | engineUp a =>
    refine of_same ?_
    rw [Event.run, Emit.next_modify]
    split <;> rfl

theorem emitted_createInstance : (createInstance available client callbacks).emitted s =
    if callbacks.hasMandatory ∧ 1 = s.gOSFrameworkRefCount + 1 then [.createOSFramework] else [] := by
  rw [createInstance]
  by_cases asked : callbacks.hasMandatory = true
  · rw [if_pos asked, Emit.emitted_bind, Emit.emitted_modify, Emit.next_modify, Emit.emitted_get_bind]
    dsimp only
    by_cases first : 1 = s.gOSFrameworkRefCount + 1
    · rw [if_pos first, if_pos ⟨asked, first⟩]
      rfl
    · rw [if_neg first, if_neg fun both => first both.2]
      rfl
  · rw [if_neg asked, if_neg fun both => asked both.1]
    rfl

theorem emitted_destroy : (destroy client cb).emitted s =
    if 1 = s.gOSFrameworkRefCount then [.destroyOSFramework] else [] := by
  rw [destroy, Emit.emitted_bind, Emit.emitted_modify, Emit.next_modify, Emit.emitted_get_bind]
  have same : (if s.clientData.contains client then s.drop client cb else s).gOSFrameworkRefCount =
      s.gOSFrameworkRefCount := by
    split
    · exact (Prod.mk.inj (counts_drop client cb s)).1
    · rfl
  rw [same]
  split <;> rfl

/-- A step keeps the count exactly when it does not destroy an object for the second time. -/
theorem counted_step_iff (sound : s.AllSound) (valid : s.Valid e) (counted : s.Counted) :
    (s.step available e).Counted ↔ s.DestroysUsed e := by
  cases running : s.aborted with
  | true =>
    rw [step_aborted running]
    exact iff_of_true counted fun there => Bool.noConfusion (running.symm.trans there)
  | false =>
    by_cases destroys : ∃ client cb, e = .destroy client cb
    · obtain ⟨client, cb, rfl⟩ := destroys
      obtain ⟨count, table⟩ := Prod.mk.inj (counts_destroy client cb s)
      have used : s.DestroysUsed (.destroy client cb) ↔ s.clientData.contains client = true := by
        constructor
        · exact fun used => used running client cb rfl
        · rintro known - _ _ ⟨⟩
          exact known
      rw [used, Counted, step_running running, Event.run, count, table, counted]
      by_cases known : s.clientData.contains client = true
      · refine iff_of_true ?_ known
        rw [if_pos known, ← SortedMap.size_erase_of_mem (SortedMap.contains_iff.mp known), UInt32.ofNat_add]
        exact UInt32.add_sub_cancel ..
      · refine iff_of_false (fun same => ?_) known
        rw [if_neg known, UInt32.sub_eq_iff_eq_add, UInt32.left_eq_add] at same
        exact absurd same (by decide)
    · have destroys (client : Client) (cb : Option Callback) (same : e = .destroy client cb) : False :=
        destroys ⟨client, cb, same⟩
      refine iff_of_true ?_ fun _ client cb same => (destroys client cb same).elim
      by_cases creates : ∃ client callbacks, e = .createInstance client callbacks
      · obtain ⟨client, callbacks, rfl⟩ := creates
        rw [step_running running, Event.run]
        by_cases asked : callbacks.hasMandatory = true
        · obtain ⟨count, table⟩ := Prod.mk.inj (counts_createInstance available client s asked)
          have fresh : client ∉ s.clientData :=
            SortedMap.contains_eq_false_iff.mp ((sound client).phase.eq_absent valid).1
          rw [Counted, count, table, SortedMap.size_insert_of_notMem fresh, UInt32.ofNat_add, counted]
          rfl
        · rw [next_createInstance, if_neg asked]
          exact counted
      · obtain ⟨count, size⟩ := counted_other available running valid
          (fun client callbacks same => creates ⟨client, callbacks, same⟩) destroys
        rw [Counted, count, size]
        exact counted

theorem isEmpty_eq (m : SortedMap Client LocationCallbacks) : (!m.isEmpty) = decide (m.size ≠ 0) := by
  rw [Bool.eq_iff_iff, decide_eq_true_eq, Bool.not_eq_true', Bool.eq_false_iff, ne_eq, SortedMap.isEmpty_iff, ne_eq,
    SortedMap.size_eq_zero_iff]

omit [LinearOrder Client] in
theorem foldl_framework_other {written : List (Output Client Callback)} (up : Option Bool)
    (calls : ∀ w ∈ written, ¬ Aside w) : written.foldl framework up = up := by
  induction written with
  | nil => rfl
  | cons w rest ih =>
    have first := calls w List.mem_cons_self
    rw [List.foldl_cons]
    cases w with
    | createOSFramework | destroyOSFramework => exact absurd trivial first
    | capabilitiesCb | destroyCompleteCb | delete => exact ih fun w member => calls w (List.mem_cons_of_mem _ member)

/-- A step that keeps the count makes the framework for the first client and ends it for the last. -/
theorem framework_step (sound : s.AllSound) (valid : s.Valid e) (counted : s.Counted) (used : s.DestroysUsed e)
    (few : s.clientData.size < 2 ^ 32) :
    ((e.happen available).emitted s).foldl framework (some !s.clientData.isEmpty) =
      some !(s.step available e).clientData.isEmpty := by
  cases running : s.aborted with
  | true =>
    rw [step_aborted running, Event.happen, Emit.emitted_get_bind, running]
    rfl
  | false =>
    have happens : (e.happen available).emitted s = (e.run available).emitted s := by
      rw [Event.happen, Emit.emitted_get_bind, running]
      rfl
    rw [isEmpty_eq, isEmpty_eq]
    by_cases destroys : ∃ client cb, e = .destroy client cb
    · obtain ⟨client, cb, rfl⟩ := destroys
      have known := used running client cb rfl
      obtain ⟨-, table⟩ := Prod.mk.inj (counts_destroy client cb s)
      have size := SortedMap.size_erase_of_mem (SortedMap.contains_iff.mp known)
      have last : 1 = s.gOSFrameworkRefCount ↔ s.clientData.size = 1 := by
        rw [counted, ← UInt32.toNat_inj, UInt32.toNat_ofNat_of_lt' few]
        exact eq_comm
      rw [happens, step_running running, Event.run, emitted_destroy, table, if_pos known]
      have there : decide (s.clientData.size ≠ 0) = true := decide_eq_true (by omega)
      rw [there]
      by_cases one : s.clientData.size = 1
      · have gone : decide ((s.clientData.erase client).size ≠ 0) = false := decide_eq_false (by omega)
        rw [if_pos (last.mpr one), gone]
        rfl
      · have left : decide ((s.clientData.erase client).size ≠ 0) = true := decide_eq_true (by omega)
        rw [if_neg fun same => one (last.mp same), left]
        rfl
    · have destroys (client : Client) (cb : Option Callback) (same : e = .destroy client cb) : False :=
        destroys ⟨client, cb, same⟩
      by_cases creates : ∃ client callbacks, e = .createInstance client callbacks
      · obtain ⟨client, callbacks, rfl⟩ := creates
        rw [happens, step_running running, Event.run, emitted_createInstance]
        by_cases asked : callbacks.hasMandatory = true
        · obtain ⟨-, table⟩ := Prod.mk.inj (counts_createInstance available client s asked)
          have fresh : client ∉ s.clientData :=
            SortedMap.contains_eq_false_iff.mp ((sound client).phase.eq_absent valid).1
          have size : (s.clientData.insert client callbacks).size = s.clientData.size + 1 :=
            SortedMap.size_insert_of_notMem fresh
          have first : 1 = s.gOSFrameworkRefCount + 1 ↔ s.clientData.size = 0 := by
            rw [counted, eq_comm, UInt32.add_eq_right, ← UInt32.toNat_inj, UInt32.toNat_ofNat_of_lt' few]
            rfl
          have there : decide ((s.clientData.insert client callbacks).size ≠ 0) = true := decide_eq_true (by omega)
          rw [table, there]
          by_cases empty : s.clientData.size = 0
          · rw [if_pos ⟨asked, first.mpr empty⟩, decide_eq_false (not_not.mpr empty)]
            rfl
          · rw [if_neg fun both => empty (first.mp both.2), decide_eq_true empty]
            rfl
        · rw [if_neg fun both => asked both.1, next_createInstance, if_neg asked]
          rfl
      · have creates (client : Client) (callbacks : LocationCallbacks) (same : e = .createInstance client callbacks) :
            False := creates ⟨client, callbacks, same⟩
        obtain ⟨-, size⟩ := counted_other available running valid creates destroys
        rw [size]
        refine foldl_framework_other _ fun w member aside => ?_
        rcases emitted_other creates destroys member with ⟨p, a, rfl, -⟩ | ⟨p, rfl, -⟩
        · exact aside
        · exact aside

/-- In every run of calls that use only objects that are there: the count is that of the clients in use throughout
exactly when no step destroys an object for the second time, and if so, and there are never 2 ^ 32 clients, the
framework is made and ended in turn and is there exactly while some client is in use. -/
theorem counted_iff (valid : EachStep (step available) Valid (initial Client Callback) events) :
    (Throughout (step available) Counted (initial Client Callback) events ↔
      EachStep (step available) DestroysUsed (initial Client Callback) events) ∧
    (EachStep (step available) DestroysUsed (initial Client Callback) events →
      Throughout (step available) (fun s => s.clientData.size < 2 ^ 32) (initial Client Callback) events →
        ∀ done, done <+: events →
          (outputs available (initial Client Callback) done).foldl framework (some false) =
            some !(done.foldl (step available) (initial Client Callback)).clientData.isEmpty) := by
  have sound : Throughout (step available) AllSound (initial Client Callback) events :=
    throughout_of_eachStep allSound_initial (fun _ _ sound valid => sound.step valid) valid
  have exactly : Throughout (step available) Counted (initial Client Callback) events ↔
      EachStep (step available) DestroysUsed (initial Client Callback) events :=
    throughout_iff_eachStep_of valid allSound_initial (fun _ _ sound valid => sound.step valid) rfl
      fun _ _ sound valid counted => counted_step_iff sound valid counted
  refine ⟨exactly, fun used few done => ?_⟩
  have counted := exactly.mpr used
  induction done using List.reverseRecOn with
  | nil => exact fun _ => rfl
  | append_singleton done e ih =>
    intro reached
    have before := (List.prefix_append done [e]).trans reached
    rw [outputs_append, List.foldl_append, ih before, List.foldl_append]
    exact framework_step (sound done before) (valid done e reached) (counted done before) (used done e reached)
      (few done before)

/-- Two clients are created, and one of them is destroyed twice while its removal is queued. -/
def destroyedTwice : List (Event ℕ Unit) :=
  [.createInstance 1 positions, .createInstance 2 positions, .destroy 1 none, .destroy 1 none]

theorem counted_iff_destroyedTwice :
    ¬ Throughout (step fun _ => true) Counted (initial ℕ Unit) destroyedTwice := by
  have valid : EachStep (step fun _ => true) Valid (initial ℕ Unit) destroyedTwice := by
    iterate 4 refine eachStep_cons rfl ?_
    exact eachStep_nil
  rw [(counted_iff valid).1]
  intro used
  exact absurd (used (destroyedTwice.take 3) (.destroy 1 none) List.prefix_rfl rfl 1 none rfl) (by decide)

end Cypfr.LocationApi.System
