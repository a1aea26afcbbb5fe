import Cypfr.Machine.Run
import Cypfr.Proofs.LocationApi

/-! # Client objects are deleted only after all adapters have let go of them

An object passes through phases: it is created, used, destroyed and, once every adapter that the library had loaded
has removed it, deleted. The mask of the adapters to wait for says at every point which removals are still queued.
-/

namespace Cypfr.LocationApi

open Machine

namespace View

variable {Callback : Type} {v v' : View Callback} {a : Adapter} {aborted : Bool}

/-- An adapter neither has the object nor is to do anything with it. -/
def Gone (v : View Callback) (a : Adapter) : Prop := v.kept a = false ∧ ∀ d ∈ v.due, d.adapter ≠ a

/-- The last thing that an adapter is to do with the object is to remove it. -/
def Leaves (v : View Callback) (a : Adapter) : Prop :=
  ∃ front back, v.due = front ++ .remove a :: back ∧ .remove a ∉ front ∧ ∀ d ∈ back, d.adapter ≠ a

/-- The adapters that are yet to remove the object. -/
def removes (v : View Callback) (a : Adapter) : Bool := decide (.remove a ∈ v.due)

/-- The phases of an object. -/
inductive Phase (v : View Callback) : Prop
  | absent (dead : v.alive = false) (unknown : v.registered = false) (idle : v.waits = none) (gone : ∀ a, v.Gone a)
      (settled : v.ending = [])
  | used (lives : v.alive = true) (known : v.registered = true) (idle : v.waits = none) (stays : ∀ a, .remove a ∉ v.due)
      (settled : v.ending = [])
  | waiting (lives : v.alive = true) (unknown : v.registered = false) {data : LocationAPIDestroyCbData Callback}
      (waits : v.waits = some data) (mask : data.waitAdapterMask = maskOf v.removes)
      (queued : ∃ a, .remove a ∈ v.due) (each : ∀ a, v.Gone a ∨ v.Leaves a) (settled : v.ending = [])
  | leaked (lives : v.alive = true) (unknown : v.registered = false) (idle : v.waits = none)
      (each : ∀ a, v.Gone a ∨ v.Leaves a) (settled : v.ending = [])
  | leaving (lives : v.alive = true) (unknown : v.registered = false) (idle : v.waits = none) (gone : ∀ a, v.Gone a)
      {cb : Option Callback} (last : v.ending = [cb])

/-- What holds of every object. -/
structure Sound (v : View Callback) : Prop where
  phase : v.Phase
  due : ∀ d ∈ v.due, v.loaded d.adapter = true
  kept : ∀ a, v.kept a = true → v.loaded a = true

theorem Gone.pop {d : Due} {rest : List Due} (gone : v.Gone a) (head : v.due = d :: rest) :
    d.adapter ≠ a ∧ ∀ d ∈ rest, d.adapter ≠ a := by
  have each := gone.2
  rw [head] at each
  exact ⟨each d List.mem_cons_self, fun d member => each d (List.mem_cons_of_mem _ member)⟩

/-- An adapter takes the first message about the object; it removes the object or it has yet to. -/
theorem Leaves.pop {d : Due} {rest : List Due} (leaves : v.Leaves a) (head : v.due = d :: rest) :
    d = .remove a ∧ (∀ d ∈ rest, d.adapter ≠ a) ∨
      d ≠ .remove a ∧
        ∃ front back, rest = front ++ .remove a :: back ∧ .remove a ∉ front ∧ ∀ d ∈ back, d.adapter ≠ a := by
  obtain ⟨front, back, due, first, after⟩ := leaves
  rw [head] at due
  cases front with
  | nil =>
    obtain ⟨rfl, rfl⟩ := List.cons.inj due
    exact .inl ⟨rfl, after⟩
  | cons other front =>
    obtain ⟨rfl, rfl⟩ := List.cons.inj due
    exact .inr ⟨fun same => first (same ▸ List.mem_cons_self), front, back, rfl,
      fun member => first (List.mem_cons_of_mem _ member), after⟩

theorem Leaves.mem (leaves : v.Leaves a) : .remove a ∈ v.due := by
  obtain ⟨front, back, due, -, -⟩ := leaves
  rw [due]
  exact List.mem_append_right _ List.mem_cons_self

/-- A view of which only the loaded interfaces are new. -/
theorem Phase.of_same (phase : v.Phase) (alive : v'.alive = v.alive) (registered : v'.registered = v.registered)
    (waits : v'.waits = v.waits) (kept : v'.kept = v.kept) (due : v'.due = v.due) (ending : v'.ending = v.ending) :
    v'.Phase := by
  obtain ⟨a, r, w, l, k, d, e⟩ := v
  obtain ⟨a', r', w', l', k', d', e'⟩ := v'
  dsimp only at alive registered waits kept due ending
  subst alive registered waits kept due ending
  cases phase with
  | absent dead unknown idle gone settled => exact .absent dead unknown idle gone settled
  | used lives known idle stays settled => exact .used lives known idle stays settled
  | waiting lives unknown waits mask queued each settled => exact .waiting lives unknown waits mask queued each settled
  | leaked lives unknown idle each settled => exact .leaked lives unknown idle each settled
  | leaving lives unknown idle gone last => exact .leaving lives unknown idle gone last

theorem not_mem_adds {adds : List Adapter} (stays : ∀ a, .remove a ∉ v.due) (a : Adapter) :
    .remove a ∉ v.due ++ adds.map .add := by
  intro member
  rcases List.mem_append.mp member with before | added
  · exact stays a before
  · obtain ⟨b, -, wrong⟩ := List.mem_map.mp added
    exact Due.noConfusion wrong

/-- What is held of an object after some adapters are told to add it. -/
theorem Sound.joined {adds : List Adapter} (sound : v.Sound) (joins : Joins v v' adds) :
    (∀ d ∈ v'.due, v'.loaded d.adapter = true) ∧ ∀ a, v'.kept a = true → v'.loaded a = true := by
  constructor
  · intro d member
    rw [joins.view] at member
    rcases List.mem_append.mp member with before | added
    · exact joins.more _ (sound.due d before)
    · obtain ⟨a, among, rfl⟩ := List.mem_map.mp added
      exact joins.there a among
  · intro a kept
    rw [joins.view] at kept
    exact joins.more a (sound.kept a kept)

theorem Sound.release (sound : v.Sound) (idle : v.waits = none) : (v.release a).Sound := by
  rw [View.release, idle]
  exact sound

/-- The adapters that have or have yet to remove an object, after one of them takes a message to add it. -/
theorem each_added {rest : List Due} (head : v.due = .add a :: rest) (each : ∀ b, v.Gone b ∨ v.Leaves b) (b : Adapter) :
    View.Gone { v with due := rest, kept := Function.update v.kept a true } b ∨
      View.Leaves { v with due := rest, kept := Function.update v.kept a true } b := by
  rcases each b with gone | leaves
  · obtain ⟨other, later⟩ := gone.pop head
    exact .inl ⟨(Function.update_of_ne (Ne.symm other) ..).trans gone.1, later⟩
  · rcases leaves.pop head with ⟨wrong, -⟩ | ⟨-, leaves⟩
    · exact Due.noConfusion wrong
    · exact .inr leaves

/-- The same after one of them takes the message to remove it. -/
theorem each_removed {rest : List Due} (head : v.due = .remove a :: rest) (each : ∀ b, v.Gone b ∨ v.Leaves b)
    (b : Adapter) :
    View.Gone { v with due := rest, kept := Function.update v.kept a false } b ∨
      View.Leaves { v with due := rest, kept := Function.update v.kept a false } b := by
  rcases each b with gone | leaves
  · obtain ⟨other, later⟩ := gone.pop head
    exact .inl ⟨(Function.update_of_ne (Ne.symm other) ..).trans gone.1, later⟩
  · rcases leaves.pop head with ⟨same, later⟩ | ⟨-, leaves⟩
    · obtain rfl : a = b := congrArg Due.adapter same
      exact .inl ⟨Function.update_self .., later⟩
    · exact .inr leaves

/-- The removals that are left after one of them. -/
theorem removes_removed {rest : List Due} (head : v.due = .remove a :: rest) (each : ∀ b, v.Gone b ∨ v.Leaves b) :
    View.removes { v with due := rest, kept := Function.update v.kept a false } =
      Function.update v.removes a false := by
  funext b
  by_cases same : b = a
  · subst same
    rw [Function.update_self]
    refine decide_eq_false fun later => ?_
    rcases each b with gone | leaves
    · exact (gone.pop head).1 rfl
    · rcases leaves.pop head with ⟨-, none⟩ | ⟨wrong, -⟩
      · exact none _ later rfl
      · exact wrong rfl
  · rw [Function.update_of_ne same]
    refine decide_eq_decide.mpr ?_
    rw [head, List.mem_cons]
    exact ⟨.inr, fun member => member.resolve_left fun wrong => same (congrArg Due.adapter wrong)⟩

theorem Sound.added {rest : List Due} (sound : v.Sound) (head : v.due = .add a :: rest) :
    View.Sound { v with due := rest, kept := Function.update v.kept a true } := by
  have later {d : Due} (member : d ∈ rest) : d ∈ v.due := by
    rw [head]
    exact List.mem_cons_of_mem _ member
  refine ⟨?_, fun d member => sound.due d (later member), fun b kept => ?_⟩
  · cases sound.phase with
    | absent dead unknown idle gone settled => exact absurd rfl ((gone a).pop head).1
    | used lives known idle stays settled =>
      exact .used lives known idle (fun b member => stays b (later member)) settled
    | waiting lives unknown waits mask queued each settled =>
      have same : View.removes { v with due := rest, kept := Function.update v.kept a true } = v.removes := by
        funext b
        refine decide_eq_decide.mpr ?_
        rw [head, List.mem_cons]
        exact ⟨.inr, fun member => member.resolve_left Due.noConfusion⟩
      obtain ⟨b, member⟩ := queued
      rw [head, List.mem_cons] at member
      exact .waiting lives unknown waits (mask.trans (congrArg maskOf same.symm))
        ⟨b, member.resolve_left Due.noConfusion⟩ (each_added head each) settled
    | leaked lives unknown idle each settled => exact .leaked lives unknown idle (each_added head each) settled
    | leaving lives unknown idle gone last => exact absurd rfl ((gone a).pop head).1
  · by_cases same : b = a
    · subst same
      exact sound.due (.add b) (by rw [head]; exact List.mem_cons_self)
    · refine sound.kept b ?_
      exact (Function.update_of_ne same ..).symm.trans kept

theorem Sound.removed {rest : List Due} (sound : v.Sound) (head : v.due = .remove a :: rest) :
    (View.release a { v with due := rest, kept := Function.update v.kept a false }).Sound := by
  have later {d : Due} (member : d ∈ rest) : d ∈ v.due := by
    rw [head]
    exact List.mem_cons_of_mem _ member
  have due (d : Due) (member : d ∈ rest) : v.loaded d.adapter = true := sound.due d (later member)
  have kept (b : Adapter) (kept : Function.update v.kept a false b = true) : v.loaded b = true := by
    by_cases same : b = a
    · subst same
      rw [Function.update_self] at kept
      exact absurd kept Bool.false_ne_true
    · exact sound.kept b ((Function.update_of_ne same ..).symm.trans kept)
  cases sound.phase with
  | absent dead unknown idle gone settled => exact absurd rfl ((gone a).pop head).1
  | used lives known idle stays settled => exact absurd (by rw [head]; exact List.mem_cons_self) (stays a)
  | waiting lives unknown waits mask queued each settled =>
    have each' := each_removed head each
    rw [View.release]
    dsimp only
    rw [waits]
    dsimp only
    rw [mask, maskOf_clear, ← removes_removed head each]
    split
    · next empty =>
      have none := maskOf_eq_zero_iff.mp empty
      refine ⟨.leaving lives unknown rfl (fun b => ?_) (congrArg _ settled), due, kept⟩
      exact (each' b).resolve_right fun leaves => of_decide_eq_false (none b) leaves.mem
    · next some =>
      refine ⟨.waiting lives unknown rfl rfl ?_ each' settled, due, kept⟩
      by_contra none
      refine some (maskOf_eq_zero_iff.mpr fun b => decide_eq_false fun member => none ⟨b, member⟩)
  | leaked lives unknown idle each settled =>
    exact Sound.release ⟨.leaked lives unknown idle (each_removed head each) settled, due, kept⟩ idle
  | leaving lives unknown idle gone last => exact absurd rfl ((gone a).pop head).1

/-- An object with an end to come is destroyed and all adapters have let go of it. -/
theorem Phase.ending {cb : Option Callback} {rest : List (Option Callback)} (phase : v.Phase)
    (perm : v.ending.Perm (cb :: rest)) :
    v.alive = true ∧ v.registered = false ∧ v.waits = none ∧ (∀ a, v.Gone a) ∧ rest = [] := by
  have some : v.ending ≠ [] := by
    intro none
    rw [none] at perm
    exact List.cons_ne_nil _ _ perm.symm.eq_nil
  cases phase with
  | absent dead unknown idle gone settled => exact absurd settled some
  | used lives known idle stays settled => exact absurd settled some
  | waiting lives unknown waits mask queued each settled => exact absurd settled some
  | leaked lives unknown idle each settled => exact absurd settled some
  | leaving lives unknown idle gone last =>
    rw [last] at perm
    have length := perm.length_eq
    exact ⟨lives, unknown, idle, gone, List.eq_nil_of_length_eq_zero (Nat.succ.inj length).symm⟩

theorem Phase.eq_absent (phase : v.Phase) (dead : v.alive = false) :
    v.registered = false ∧ v.waits = none ∧ (∀ a, v.Gone a) ∧ v.ending = [] := by
  cases phase with
  | absent dead unknown idle gone settled => exact ⟨unknown, idle, gone, settled⟩
  | used lives | waiting lives | leaked lives | leaving lives => exact absurd (dead.symm.trans lives) Bool.false_ne_true

theorem Phase.eq_used (phase : v.Phase) (known : v.registered = true) :
    v.alive = true ∧ v.waits = none ∧ (∀ a, .remove a ∉ v.due) ∧ v.ending = [] := by
  cases phase with
  | used lives known idle stays settled => exact ⟨lives, idle, stays, settled⟩
  | absent _ unknown | waiting _ unknown | leaked _ unknown | leaving _ unknown =>
    exact absurd (unknown.symm.trans known) Bool.false_ne_true

/-- Every step other than a call of `destroy` keeps what holds of an object. -/
theorem Sound.change (sound : v.Sound) (change : Change aborted v v') : v'.Sound := by
  cases change with
  | joined joins may =>
    obtain ⟨due, kept⟩ := sound.joined joins
    refine ⟨?_, due, kept⟩
    rcases may with rfl | known
    · rw [joins.view]
      exact sound.phase.of_same rfl rfl rfl rfl (List.append_nil _) rfl
    · obtain ⟨lives, idle, stays, settled⟩ := sound.phase.eq_used known
      rw [joins.view]
      exact .used lives known idle (not_mem_adds stays) settled
  | created fresh joins =>
    obtain ⟨due, kept⟩ := sound.joined joins
    obtain ⟨-, idle, gone, settled⟩ := sound.phase.eq_absent fresh
    refine ⟨?_, due, kept⟩
    rw [joins.view]
    exact .used rfl rfl idle (not_mem_adds fun a member => (gone a).2 _ member rfl) settled
  | added head => exact sound.added head
  | removed head => exact sound.removed head
  | @ended cb rest perm calls =>
    obtain ⟨lives, unknown, idle, gone, rfl⟩ := sound.phase.ending perm
    refine ⟨?_, sound.due, sound.kept⟩
    cases cb with
    | none => exact .leaked lives unknown idle (fun a => .inl (gone a)) rfl
    | some cb => exact .absent rfl unknown idle gone rfl

theorem needToWait_iff : v.needToWait = true ↔ ∃ a, v.loaded a = true := by
  rw [needToWait, Bool.or_eq_true, Bool.or_eq_true]
  constructor
  · rintro ((gnss | batching) | geofence)
    exacts [⟨_, gnss⟩, ⟨_, batching⟩, ⟨_, geofence⟩]
  · rintro ⟨a, loaded⟩
    cases a with
    | gnss => exact .inl (.inl loaded)
    | batching => exact .inl (.inr loaded)
    | geofence => exact .inr loaded

theorem mem_drop_due {d : Due} (cb : Option Callback) :
    d ∈ (v.drop cb).due ↔ d ∈ v.due ∨ ∃ a, v.loaded a = true ∧ .remove a = d := by
  refine List.mem_append.trans (or_congr_right (List.mem_map.trans (exists_congr fun a => ?_)))
  rw [List.mem_filter, and_iff_right a.mem_all]

/-- After `destroy` every adapter that is loaded is to remove the object, and no other has it. -/
theorem each_drop (sound : v.Sound) (stays : ∀ a, .remove a ∉ v.due) (cb : Option Callback) (a : Adapter) :
    (v.loaded a = false ∧ (v.drop cb).Gone a) ∨ v.loaded a = true ∧ (v.drop cb).Leaves a := by
  cases loaded : v.loaded a with
  | false =>
    refine .inl ⟨rfl, ?_, fun d member same => ?_⟩
    · refine Bool.eq_false_of_not_eq_true fun kept => ?_
      exact Bool.false_ne_true (loaded.symm.trans (sound.kept a kept))
    · subst same
      rcases (mem_drop_due cb).mp member with before | ⟨b, there, rfl⟩
      · exact Bool.false_ne_true (loaded.symm.trans (sound.due d before))
      · exact Bool.false_ne_true (loaded.symm.trans there)
  | true =>
    refine .inr ⟨rfl, ?_⟩
    have among : a ∈ Adapter.all.filter v.loaded := List.mem_filter.mpr ⟨a.mem_all, loaded⟩
    have nodup : (Adapter.all.filter v.loaded).Nodup := List.Nodup.filter _ (by decide)
    obtain ⟨front, back, split⟩ := List.append_of_mem among
    rw [split] at nodup
    obtain ⟨-, nodup, apart⟩ := List.nodup_append.mp nodup
    refine ⟨v.due ++ front.map .remove, back.map .remove, ?_, fun member => ?_, fun d member same => ?_⟩
    · change v.due ++ (Adapter.all.filter v.loaded).map .remove = _
      rw [split, List.map_append, List.append_assoc]
      rfl
    · rcases List.mem_append.mp member with before | removed
      · exact stays a before
      · obtain ⟨b, early, same⟩ := List.mem_map.mp removed
        obtain rfl : b = a := congrArg Due.adapter same
        exact apart b early b List.mem_cons_self rfl
    · obtain ⟨b, late, rfl⟩ := List.mem_map.mp member
      obtain rfl : b = a := same
      exact (List.nodup_cons.mp nodup).1 late

/-- A call of `destroy` keeps what holds of an object. -/
theorem Sound.drop (sound : v.Sound) (known : v.registered = true) (cb : Option Callback) : (v.drop cb).Sound := by
  obtain ⟨lives, idle, stays, settled⟩ := sound.phase.eq_used known
  have each := each_drop sound stays cb
  refine ⟨?_, fun d member => ?_, sound.kept⟩
  · cases need : v.needToWait with
    | false =>
      have unloaded (a : Adapter) : ¬ v.loaded a = true := fun loaded =>
        Bool.false_ne_true (need.symm.trans (needToWait_iff.mpr ⟨a, loaded⟩))
      have idle' : (v.drop cb).waits = none := by
        change (if cb.isSome && v.needToWait then _ else v.waits) = none
        rw [need, Bool.and_false, if_neg Bool.false_ne_true, idle]
      have last : (v.drop cb).ending = [cb] := by
        change (if v.needToWait then v.ending else v.ending ++ [cb]) = [cb]
        rw [need, if_neg Bool.false_ne_true, settled]
        rfl
      exact .leaving lives rfl idle' (fun a => ((each a).resolve_right fun both => unloaded a both.1).2) last
    | true =>
      have settled' : (v.drop cb).ending = [] := (if_pos need).trans settled
      have either (a : Adapter) : (v.drop cb).Gone a ∨ (v.drop cb).Leaves a := (each a).imp And.right And.right
      cases cb with
      | none => exact .leaked lives rfl idle either settled'
      | some cb =>
        have removes : (v.drop (some cb)).removes = v.loaded := by
          funext a
          rcases each a with ⟨absent, gone⟩ | ⟨loaded, leaves⟩
          · rw [absent]
            exact decide_eq_false fun member => gone.2 _ member rfl
          · rw [loaded]
            exact decide_eq_true leaves.mem
        obtain ⟨a, loaded⟩ := needToWait_iff.mp need
        refine .waiting lives rfl (if_pos need) (congrArg maskOf removes.symm) ⟨a, ?_⟩ either settled'
        exact (mem_drop_due _).mpr (.inr ⟨a, loaded, rfl⟩)
  · rcases (mem_drop_due cb).mp member with before | ⟨a, loaded, rfl⟩
    · exact sound.due d before
    · exact loaded

end View

namespace System

variable {Client Callback : Type} [LinearOrder Client] {available : Adapter → Bool} {s : System Client Callback}
  {p : Client} {e : Event Client Callback} {events : List (Event Client Callback)}

/-- What is held of every object is sound. -/
def AllSound (s : System Client Callback) : Prop := ∀ p, (s.view p).Sound

theorem allSound_initial : (initial Client Callback).AllSound :=
  fun _ => ⟨.absent rfl rfl rfl (fun _ => ⟨rfl, nofun⟩) rfl, nofun, nofun⟩

theorem AllSound.step (sound : s.AllSound) (valid : s.Valid e) : (s.step available e).AllSound := by
  intro p
  cases ended : s.aborted with
  | true =>
    rw [step_aborted ended]
    exact sound p
  | false =>
    by_cases other : ∀ client cb, e ≠ .destroy client cb
    · exact (sound p).change (step_change ended valid other (sound p).due)
    · obtain ⟨client, cb, rfl⟩ : ∃ client cb, e = .destroy client cb := by
        by_contra none
        exact other fun client cb same => none ⟨client, cb, same⟩
      rw [step_running ended, Event.run, view_destroy]
      split
      · next known => exact (sound p).drop known.2 cb
      · exact sound p

/-- An output that neither calls a user nor deletes an object. -/
def Aside : Output Client Callback → Prop
  | .createOSFramework | .destroyOSFramework => True
  | .capabilitiesCb _ | .destroyCompleteCb _ | .delete _ => False

theorem aside_createInstance (client : Client) (callbacks : LocationCallbacks) :
    (createInstance available client callbacks : SystemM Client Callback Unit).Only Aside := by
  refine Emit.only_ite ?_ (Emit.only_pure _)
  refine (Emit.only_modify _).bind fun _ => Emit.only_get_bind fun _ => ?_
  exact Emit.only_ite ((Emit.only_emit trivial).bind fun _ => (Emit.only_modify _).bind fun _ => Emit.only_modify _)
    ((Emit.only_modify _).bind fun _ => Emit.only_modify _)

theorem emitted_updateCallbacks (client : Client) (callbacks : LocationCallbacks) :
    (updateCallbacks available client callbacks).emitted s = [] := by
  rw [updateCallbacks]
  split <;> rfl

theorem aside_destroy (client : Client) (cb : Option Callback) :
    (destroy client cb : SystemM Client Callback Unit).Only Aside := by
  refine (Emit.only_modify _).bind fun _ => Emit.only_get_bind fun _ => ?_
  exact Emit.only_ite ((Emit.only_emit trivial).bind fun _ => Emit.only_modify _) (Emit.only_modify _)

/-- The end of a removal deletes its object and calls no user. -/
theorem only_complete (client : Client) (cb : Option Callback) :
    (complete client cb : SystemM Client Callback Unit).Only (· = .delete client) := by
  have emits : (Emit.emit (.delete client) : SystemM Client Callback Unit).Only (· = .delete client) :=
    Emit.only_emit rfl
  have deleted (s : System Client Callback) :
      (if s.aborted then pure ()
      else do
        Emit.emit (.delete client)
        Emit.modify fun s => { s with alive := Function.update s.alive client false } :
          SystemM Client Callback Unit).Only (· = .delete client) :=
    Emit.only_ite (Emit.only_pure _) (emits.bind fun _ => Emit.only_modify _)
  cases cb with
  | none => exact (Emit.only_modify _).bind fun _ => Emit.only_get_bind deleted
  | some cb => exact Emit.only_get_bind deleted

/-- Messages call only clients that their adapter keeps. -/
theorem emitted_proc {msg : LocMsg Client} {w : Output Client Callback} (member : w ∈ msg.proc.emitted s) :
    ∃ p a, w = .capabilitiesCb p ∧ s.kept p a = true := by
  cases msg with
  | addClient a client callbacks | removeClient a client => exact absurd member List.not_mem_nil
  | requestCapabilities a client =>
    rw [LocMsg.proc, Emit.emitted_get_bind] at member
    cases there : s.interface a with
    | none =>
      rw [there] at member
      exact absurd member List.not_mem_nil
    | some adapter =>
      rw [there] at member
      dsimp only at member
      split at member
      · cases found : adapter.mClientData.find? client with
        | none =>
          rw [found] at member
          exact absurd member List.not_mem_nil
        | some callbacks =>
          rw [found] at member
          dsimp only at member
          split at member
          · refine ⟨client, a, List.mem_singleton.mp member, ?_⟩
            rw [kept, there, Option.any_some, SortedMap.contains, found]
            rfl
          · exact absurd member List.not_mem_nil
      · exact absurd member List.not_mem_nil
  | handleEngineUpEvent a =>
    rw [LocMsg.proc, Emit.emitted_get_bind] at member
    cases there : s.interface a with
    | none =>
      rw [there] at member
      exact absurd member List.not_mem_nil
    | some adapter =>
      rw [there] at member
      dsimp only at member
      have called : w ∈ (broadcastCapabilities adapter : SystemM Client Callback Unit).emitted
          (s.modifyAdapter a fun adapter => { adapter with mIsEngineCapabilitiesKnown := true }) := by
        rw [Emit.emitted_bind, Emit.emitted_bind, Emit.emitted_modify, List.nil_append] at member
        exact (List.mem_append.mp member).resolve_right List.not_mem_nil
      rw [broadcastCapabilities, Emit.emitted_forM _ fun entry : Client × LocationCallbacks =>
        if entry.2.capabilitiesCb then [Output.capabilitiesCb entry.1] else []] at called
      · obtain ⟨⟨client, callbacks⟩, among, told⟩ := List.mem_flatMap.mp called
        split at told
        · refine ⟨client, a, List.mem_singleton.mp told, ?_⟩
          rw [kept, there, Option.any_some, SortedMap.contains, SortedMap.find?_eq_some_iff.mpr among]
          rfl
        · exact absurd told List.not_mem_nil
      · intro entry s
        rw [Emit.emitted_ite]
        rfl

/-- A step that neither creates nor destroys a client calls only clients that an adapter keeps and deletes only objects
whose removal comes to its end. -/
theorem emitted_other {w : Output Client Callback} (creates : ∀ client callbacks, e ≠ .createInstance client callbacks)
    (destroys : ∀ client cb, e ≠ .destroy client cb) (member : w ∈ (e.happen available).emitted s) :
    (∃ p a, w = .capabilitiesCb p ∧ s.kept p a = true) ∨ ∃ p, w = .delete p ∧ (s.view p).ending ≠ [] := by
  rw [Event.happen, Emit.emitted_get_bind] at member
  split at member
  · exact absurd member List.not_mem_nil
  · cases e with
    | createInstance client callbacks => exact absurd rfl (creates client callbacks)
    | destroy client cb => exact absurd rfl (destroys client cb)
    | updateCallbacks client callbacks =>
      rw [Event.run, emitted_updateCallbacks] at member
      exact absurd member List.not_mem_nil
    | task =>
      rw [Event.run, runTask, Emit.emitted_get_bind] at member
      cases completing : s.completing with
      | none =>
        rw [completing] at member
        dsimp only at member
        cases head : s.msgTask with
        | nil =>
          rw [head] at member
          exact absurd member List.not_mem_nil
        | cons msg rest =>
          rw [head] at member
          obtain ⟨p, a, told, kept⟩ := emitted_proc member
          exact .inl ⟨p, a, told, kept⟩
      | some entry =>
        obtain ⟨client, cb⟩ := entry
        rw [completing] at member
        refine .inr ⟨client, only_complete client cb _ w member, ?_⟩
        have first : (s.view client).ending =
            cb :: ((s.leaving.filter fun entry => entry.1 = client).map Prod.snd) := by
          rw [view, completing]
          exact congrArg (List.map Prod.snd) (List.filter_cons_of_pos (decide_eq_true rfl))
        rw [first]
        exact List.cons_ne_nil _ _
    | finish client =>
      rw [Event.run, finish, Emit.emitted_get_bind] at member
      cases found : s.leaving.find? fun entry => entry.1 = client with
      | none =>
        rw [found] at member
        exact absurd member List.not_mem_nil
      | some entry =>
        obtain ⟨this, cb⟩ := entry
        rw [found] at member
        refine .inr ⟨client, only_complete client cb _ w member, ?_⟩
        have among : cb ∈ (s.view client).ending := by
          obtain ⟨own, -⟩ := List.find?_eq_some_iff_append.mp found
          obtain rfl : this = client := of_decide_eq_true own
          refine List.mem_map.mpr ⟨(this, cb), List.mem_filter.mpr ⟨?_, decide_eq_true rfl⟩, rfl⟩
          exact List.mem_append_right _ (List.mem_of_find?_eq_some found)
        exact List.ne_nil_of_mem among
    | engineUp a => exact absurd member List.not_mem_nil

/-- An output that calls a client or deletes its object does so to a client that an adapter keeps or whose removal
comes to its end. -/
theorem emitted_happen {w : Output Client Callback} (member : w ∈ (e.happen available).emitted s) :
    Aside w ∨ (∃ p a, w = .capabilitiesCb p ∧ s.kept p a = true) ∨
      ∃ p, w = .delete p ∧ (s.view p).ending ≠ [] := by
  by_cases creates : ∃ client callbacks, e = .createInstance client callbacks
  · obtain ⟨client, callbacks, rfl⟩ := creates
    rw [Event.happen, Emit.emitted_get_bind] at member
    split at member
    · exact absurd member List.not_mem_nil
    · exact .inl (aside_createInstance client callbacks s w member)
  · by_cases destroys : ∃ client cb, e = .destroy client cb
    · obtain ⟨client, cb, rfl⟩ := destroys
      rw [Event.happen, Emit.emitted_get_bind] at member
      split at member
      · exact absurd member List.not_mem_nil
      · exact .inl (aside_destroy client cb s w member)
    · exact .inr (emitted_other (fun client callbacks same => creates ⟨client, callbacks, same⟩)
        (fun client cb same => destroys ⟨client, cb, same⟩) member)

/-- Everything that still refers to an object: the library's tables, the adapters and their messages. -/
def Refers (s : System Client Callback) (p : Client) : Prop :=
  s.clientData.contains p = true ∨ s.destroyClientData.contains p = true ∨ (∃ a, s.kept p a = true) ∨
    ∃ msg ∈ s.msgTask, (msg.due p).isSome = true

/-- An object that something refers to, or whose removal comes to its end, is there. -/
theorem AllSound.alive (sound : s.AllSound) (held : s.Refers p ∨ (s.view p).ending ≠ []) : s.alive p = true := by
  cases (sound p).phase with
  | used lives | waiting lives | leaked lives | leaving lives => exact lives
  | absent dead unknown idle gone settled =>
    rcases held with (known | waits | ⟨a, kept⟩ | ⟨msg, member, due⟩) | ending
    · exact absurd (unknown.symm.trans known) Bool.false_ne_true
    · have none : s.destroyClientData.find? p = none := idle
      rw [SortedMap.contains, none] at waits
      exact absurd waits Bool.false_ne_true
    · exact absurd ((gone a).1.symm.trans kept) Bool.false_ne_true
    · obtain ⟨d, known⟩ := Option.isSome_iff_exists.mp due
      exact absurd rfl ((gone d.adapter).2 d (List.mem_filterMap.mpr ⟨msg, member, known⟩))
    · exact absurd settled ending

/-- A step calls no client whose object is not there and deletes no such object. -/
def Spares (available : Adapter → Bool) (s : System Client Callback) (e : Event Client Callback) : Prop :=
  ∀ p, .capabilitiesCb p ∈ (e.happen available).emitted s ∨ .delete p ∈ (e.happen available).emitted s →
    s.alive p = true

theorem AllSound.spares (sound : s.AllSound) (e : Event Client Callback) : s.Spares available e := by
  rintro p (called | deleted)
  · rcases emitted_happen called with aside | ⟨q, a, same, kept⟩ | ⟨q, wrong, -⟩
    · exact aside.elim
    · obtain rfl := Output.capabilitiesCb.inj same
      exact sound.alive (.inl (.inr (.inr (.inl ⟨a, kept⟩))))
    · cases wrong
  · rcases emitted_happen deleted with aside | ⟨q, a, wrong, -⟩ | ⟨q, same, ending⟩
    · exact aside.elim
    · cases wrong
    · obtain rfl := Output.delete.inj same
      exact sound.alive (.inr ending)

/-- In every run of the users' calls, which use only objects that are there, and of the adapters' task: the tables, the
adapters and their messages never refer to an object that was deleted, no deleted object is called or deleted again,
and what `new` gave to a new client was free of all of them. -/
theorem never_refers_to_deleted (valid : EachStep (step available) Valid (initial Client Callback) events) :
    Throughout (step available) (fun s => ∀ p, s.Refers p → s.alive p = true) (initial Client Callback) events ∧
      EachStep (step available) (Spares available) (initial Client Callback) events := by
  have sound : Throughout (step available) AllSound (initial Client Callback) events :=
    throughout_of_eachStep allSound_initial (fun _ _ sound valid => sound.step valid) valid
  constructor
  · exact fun done before p held => (sound done before).alive (.inl held)
  · exact fun done e before => (sound done ((List.prefix_append _ _).trans before)).spares e

/-- The callbacks of a client of positions. -/
def positions : LocationCallbacks :=
  { capabilitiesCb := true, responseCb := true, collectiveResponseCb := true, trackingCb := true,
    gnssLocationInfoCb := false, engineLocationsInfoCb := false, gnssNiCb := false, gnssSvCb := false,
    gnssNmeaCb := false, gnssDataCb := false, gnssMeasurementsCb := false, locationSystemInfoCb := false,
    batchingCb := false, geofenceBreachCb := false, geofenceStatusCb := false }

/-- A client is created and destroyed, and the next one gets its memory. -/
def reused : List (Event ℕ Unit) :=
  [.createInstance 1 positions, .task, .task, .destroy 1 (some ()), .task, .task, .createInstance 1 positions]

theorem never_refers_to_deleted_reused : (reused.foldl (step fun _ => true) (initial ℕ Unit)).alive 1 = true := by
  have valid : EachStep (step fun _ => true) Valid (initial ℕ Unit) reused := by
    refine eachStep_cons rfl (eachStep_cons trivial (eachStep_cons trivial (eachStep_cons rfl ?_)))
    exact eachStep_cons trivial (eachStep_cons trivial (eachStep_cons rfl eachStep_nil))
  have known : (reused.foldl (step fun _ => true) (initial ℕ Unit)).Refers 1 := .inl (by decide)
  exact (never_refers_to_deleted valid).1 reused List.prefix_rfl 1 known

/-- Nothing is under way any more. -/
structure Drained (s : System Client Callback) : Prop where
  msgTask : s.msgTask = []
  completing : s.completing = none
  leaving : s.leaving = []

/-- A step does not destroy a client without a function to call while an interface is loaded. -/
def Reclaims (s : System Client Callback) (e : Event Client Callback) : Prop :=
  ∀ client, e = .destroy client none → s.clientData.contains client = true → s.needToWait = false

end System

namespace View

variable {Callback : Type} {v v' : View Callback} {aborted : Bool}

/-- The object was destroyed but nothing will delete it. -/
structure Leaked (v : View Callback) : Prop where
  lives : v.alive = true
  unknown : v.registered = false
  idle : v.waits = none
  settled : v.ending = []

theorem leaked_change_iff (change : Change aborted v v') (running : aborted = false) : v'.Leaked ↔ v.Leaked := by
  cases change with
  | joined joins may =>
    rw [joins.view]
    exact ⟨fun leaked => ⟨leaked.lives, leaked.unknown, leaked.idle, leaked.settled⟩,
      fun leaked => ⟨leaked.lives, leaked.unknown, leaked.idle, leaked.settled⟩⟩
  | created fresh joins =>
    refine iff_of_false (fun leaked => ?_) fun leaked => Bool.false_ne_true (fresh.symm.trans leaked.lives)
    exact Bool.false_ne_true leaked.unknown.symm
  | added head =>
    exact ⟨fun leaked => ⟨leaked.lives, leaked.unknown, leaked.idle, leaked.settled⟩,
      fun leaked => ⟨leaked.lives, leaked.unknown, leaked.idle, leaked.settled⟩⟩
  | removed head =>
    rw [release]
    dsimp only
    cases waits : v.waits with
    | none =>
      dsimp only
      exact ⟨fun leaked => ⟨leaked.lives, leaked.unknown, waits, leaked.settled⟩,
        fun leaked => ⟨leaked.lives, leaked.unknown, rfl, leaked.settled⟩⟩
    | some data =>
      dsimp only
      refine iff_of_false (fun leaked => ?_) fun leaked => Option.some_ne_none _ (waits.symm.trans leaked.idle)
      split at leaked
      · exact List.cons_ne_nil _ _ leaked.settled
      · exact Option.some_ne_none _ leaked.idle
  | @ended cb rest perm calls =>
    refine iff_of_false (fun leaked => ?_) fun leaked => ?_
    · cases cb with
      | none => exact Bool.false_ne_true (running.symm.trans (calls rfl))
      | some cb => exact Bool.false_ne_true leaked.lives
    · rw [leaked.settled] at perm
      exact List.cons_ne_nil _ _ perm.symm.eq_nil

theorem leaked_drop_iff (sound : v.Sound) (known : v.registered = true) (cb : Option Callback) :
    (v.drop cb).Leaked ↔ cb = none ∧ v.needToWait = true := by
  obtain ⟨lives, idle, -, settled⟩ := sound.phase.eq_used known
  cases need : v.needToWait with
  | false =>
    refine iff_of_false (fun leaked => ?_) fun both => Bool.false_ne_true both.2
    have last : (v.drop cb).ending = v.ending ++ [cb] := by
      change (if v.needToWait then _ else _) = _
      rw [need, if_neg Bool.false_ne_true]
    rw [leaked.settled] at last
    exact List.append_ne_nil_of_right_ne_nil _ (List.cons_ne_nil _ _) last.symm
  | true =>
    cases cb with
    | none => exact iff_of_true ⟨lives, rfl, idle, (if_pos need).trans settled⟩ ⟨rfl, rfl⟩
    | some cb =>
      refine iff_of_false (fun leaked => ?_) fun both => Option.some_ne_none _ both.1
      exact Option.some_ne_none _ ((if_pos need).symm.trans leaked.idle)

end View

namespace System

variable {Client Callback : Type} [LinearOrder Client] {available : Adapter → Bool} {s : System Client Callback}
  {e : Event Client Callback} {events : List (Event Client Callback)}

theorem foldl_aborted (ended : s.aborted = true) : events.foldl (step available) s = s := by
  induction events with
  | nil => rfl
  | cons e rest ih => rw [List.foldl_cons, step_aborted ended, ih]

/-- In a run at whose end the process is there, it is throughout. -/
theorem throughout_running (running : (events.foldl (step available) s).aborted = false) :
    Throughout (step available) (fun s => s.aborted = false) s events := by
  rintro done ⟨rest, rfl⟩
  refine Bool.eq_false_of_not_eq_true fun ended => ?_
  rw [List.foldl_append, foldl_aborted ended] at running
  exact Bool.false_ne_true (running.symm.trans ended)

/-- No object is leaked. -/
def Tight (s : System Client Callback) : Prop := ∀ p, ¬ (s.view p).Leaked

theorem tight_step_iff (sound : s.AllSound) (valid : s.Valid e) (running : (s.step available e).aborted = false) :
    (s.step available e).Tight ↔ s.Tight ∧ s.Reclaims e := by
  have before : s.aborted = false := by
    refine Bool.eq_false_of_not_eq_true fun ended => ?_
    rw [step_aborted ended] at running
    exact Bool.false_ne_true (running.symm.trans ended)
  by_cases other : ∀ client cb, e ≠ .destroy client cb
  · have same (p : Client) : ((s.step available e).view p).Leaked ↔ (s.view p).Leaked :=
      View.leaked_change_iff (step_change before valid other (sound p).due) running
    refine (forall_congr' fun p => not_congr (same p)).trans (and_iff_left ?_).symm
    exact fun client wrong => absurd wrong (other client none)
  · obtain ⟨client, cb, rfl⟩ : ∃ client cb, e = .destroy client cb := by
      by_contra none
      exact other fun client cb same => none ⟨client, cb, same⟩
    have view (p : Client) : (s.step available (.destroy client cb)).view p =
        if client = p ∧ s.clientData.contains p = true then (s.view p).drop cb else s.view p := by
      rw [step_running before, Event.run, view_destroy]
    constructor
    · intro tight
      refine ⟨fun p leaked => ?_, ?_⟩
      · refine tight p ?_
        rw [view, if_neg]
        · exact leaked
        · exact fun both => Bool.false_ne_true (leaked.unknown.symm.trans both.2)
      · rintro client' ⟨⟩ known
        refine Bool.eq_false_of_not_eq_true fun need => tight client ?_
        rw [view, if_pos ⟨rfl, known⟩]
        exact (View.leaked_drop_iff (sound client) known none).mpr ⟨rfl, need⟩
    · rintro ⟨tight, reclaims⟩ p leaked
      rw [view] at leaked
      split at leaked
      · next known =>
        obtain ⟨rfl, known⟩ := known
        obtain ⟨rfl, need⟩ := (View.leaked_drop_iff (sound client) known cb).mp leaked
        exact Bool.false_ne_true ((reclaims client rfl known).symm.trans need)
      · exact tight p leaked

/-- Once nothing is under way, no object is on its way out. -/
theorem tight_iff_of_drained (sound : s.AllSound) (drained : s.Drained) :
    s.Tight ↔ ∀ p, s.alive p = true → s.clientData.contains p = true := by
  refine forall_congr' fun p => ?_
  have due : (s.view p).due = [] := by
    rw [view, drained.msgTask]
    rfl
  have ending : (s.view p).ending = [] := by
    rw [view, drained.completing, drained.leaving]
    rfl
  cases (sound p).phase with
  | absent dead unknown idle gone settled =>
    refine iff_of_true (fun leaked => ?_) fun lives => ?_
    · exact Bool.false_ne_true (dead.symm.trans leaked.lives)
    · exact absurd (dead.symm.trans lives) Bool.false_ne_true
  | used lives known idle stays settled =>
    exact iff_of_true (fun leaked => Bool.false_ne_true (leaked.unknown.symm.trans known)) fun _ => known
  | waiting lives unknown waits mask queued each settled =>
    obtain ⟨a, member⟩ := queued
    rw [due] at member
    exact absurd member List.not_mem_nil
  | leaked lives unknown idle each settled =>
    refine iff_of_false (fun tight => tight ⟨lives, unknown, idle, settled⟩) fun known => ?_
    exact Bool.false_ne_true (unknown.symm.trans (known lives))
  | leaving lives unknown idle gone last => exact absurd (last.symm.trans ending) (List.cons_ne_nil _ _)

/-- No run calls a function that was given to `destroy`. -/
theorem destroyCompleteCb_not_mem_outputs (cb : Callback) (s : System Client Callback) :
    .destroyCompleteCb cb ∉ outputs available s events := by
  induction events generalizing s with
  | nil => exact List.not_mem_nil
  | cons e rest ih =>
    intro member
    rw [outputs] at member
    rcases List.mem_append.mp member with now | later
    · rcases emitted_happen now with aside | ⟨p, a, wrong, -⟩ | ⟨p, wrong, -⟩
      · exact aside.elim
      · cases wrong
      · cases wrong
    · exact ih _ later

/-- In every run of valid calls after which the process is there and nothing is under way: the objects that are left are
those of the clients in use exactly when no client was destroyed without a function to call while an interface was
loaded; and no such function was ever called. -/
theorem left_iff_reclaims (valid : EachStep (step available) Valid (initial Client Callback) events)
    (running : (events.foldl (step available) (initial Client Callback)).aborted = false)
    (drained : (events.foldl (step available) (initial Client Callback)).Drained) :
    ((∀ p, (events.foldl (step available) (initial Client Callback)).alive p = true →
        (events.foldl (step available) (initial Client Callback)).clientData.contains p = true) ↔
      EachStep (step available) Reclaims (initial Client Callback) events) ∧
    ∀ cb, .destroyCompleteCb cb ∉ outputs available (initial Client Callback) events := by
  have sound : Throughout (step available) AllSound (initial Client Callback) events :=
    throughout_of_eachStep allSound_initial (fun _ _ sound valid => sound.step valid) valid
  constructor
  · rw [← tight_iff_of_drained (sound events List.prefix_rfl) drained]
    refine final_iff_eachStep_of (D := fun s e => s.Valid e ∧ (s.step available e).aborted = false) ?_ allSound_initial
      (fun _ _ sound may => sound.step may.1) ?_ fun _ _ sound may => tight_step_iff sound may.1 may.2
    · intro done e before
      have after := throughout_running running (done ++ [e]) before
      rw [List.foldl_append] at after
      exact ⟨valid done e before, after⟩
    · exact fun p leaked => Bool.false_ne_true leaked.lives
  · exact fun cb => destroyCompleteCb_not_mem_outputs cb _

/-- A client is destroyed without a function to call. -/
def forgotten : List (Event ℕ Unit) := [.createInstance 1 positions, .task, .task, .destroy 1 none, .task]

theorem left_iff_reclaims_forgotten :
    ¬ ∀ p, (forgotten.foldl (step fun _ => true) (initial ℕ Unit)).alive p = true →
      (forgotten.foldl (step fun _ => true) (initial ℕ Unit)).clientData.contains p = true := by
  have valid : EachStep (step fun _ => true) Valid (initial ℕ Unit) forgotten := by
    refine eachStep_cons rfl (eachStep_cons trivial (eachStep_cons trivial (eachStep_cons rfl ?_)))
    exact eachStep_cons trivial eachStep_nil
  rw [(left_iff_reclaims valid rfl ⟨rfl, rfl, rfl⟩).1]
  intro reclaims
  exact absurd (reclaims (forgotten.take 3) (.destroy 1 none) ⟨[.task], rfl⟩ 1 rfl (by decide)) (by decide)

end System

end Cypfr.LocationApi
