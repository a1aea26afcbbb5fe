import Cypfr.Machine.Run
import Cypfr.Proofs.SystemStatus
import Mathlib

/-! # The networks that are connected

The latest item has the connected handles and the bits of their types as long as each disconnection finds an item, is of
a type that the table knows, and leaves no handle of the same type beside one of another.
-/

namespace Cypfr.SystemStatus

open Machine SystemStatusNetworkInfo

namespace NetworkRun

variable {types : UInt64 → Int32} {r : NetworkRun} {notice : NetworkNotice}

/-- An item with these handles, each once and at the front, and the bits of their types. -/
structure Holds (types : UInt64 → Int32) (connected : Finset UInt64) (info : SystemStatusNetworkInfo) : Prop where
  table : ∃ handles : List UInt64, handles.Nodup ∧ handles.toFinset = connected ∧
    info.mAllNetworkHandles = packed types handles
  mask : HasTypes types info.mAllTypes connected

/-- The latest item. -/
def latest (r : NetworkRun) : Option SystemStatusNetworkInfo := r.mNetworkInfo.getLast?.map (·.item)

def Right (types : UInt64 → Int32) (r : NetworkRun) : Prop := ∀ info, r.latest = some info → Holds types r.connected info

/-- A known handle with its type, and not too many connected at once. -/
def InTable (types : UInt64 → Int32) (r : NetworkRun) (notice : NetworkNotice) : Prop :=
  notice.networkHandle ≠ networkHandleUnknown ∧ notice.type = types notice.networkHandle ∧
    (r.step notice).connected.card ≤ maxNetworkHandles

/-- A disconnection of a handle that is not connected, after a disconnection and with the same name of an access
point. -/
def Repeats (r : NetworkRun) (notice : NetworkNotice) (info : SystemStatusNetworkInfo) : Prop :=
  notice.networkHandle ∉ r.connected ∧ info.mConnected = false ∧
    (typeMobile ≠ notice.type ∧ info.mApn ≠ "" ∨ notice.apn = info.mApn)

/-- A disconnection whose mask is that of the handles that remain. -/
def Leaves (types : UInt64 → Int32) (r : NetworkRun) (notice : NetworkNotice) : Prop :=
  if typeToAllTypes notice.type = 0 then
    notice.networkHandle ∉ r.connected ∧ ∀ other ∈ r.connected, typeToAllTypes (types other) = 0
  else
    (∀ other ∈ r.connected.erase notice.networkHandle, types other ≠ notice.type) ∨
      ∀ other ∈ r.connected.erase notice.networkHandle, types other = notice.type ∨ typeToAllTypes (types other) = 0

/-- What a notification rests on. -/
def MayNotify (types : UInt64 → Int32) (r : NetworkRun) (notice : NetworkNotice) : Prop :=
  notice.connected = true ∨ ∃ info, r.latest = some info ∧ (r.Repeats notice info ∨ r.Leaves types notice)

/-- Known handles only, not too many, and none before the first item. -/
structure Formed (r : NetworkRun) : Prop where
  known : networkHandleUnknown ∉ r.connected
  few : r.connected.card ≤ maxNetworkHandles
  first : r.latest = none → r.connected = ∅

/-- The item that is notified. -/
def notified (notice : NetworkNotice) : SystemStatusNetworkInfo :=
  .ofType notice.type notice.connected notice.networkHandle notice.apn

section Latest

variable {info : SystemStatusNetworkInfo}

theorem latest_step_first (first : r.latest = none) : (r.step notice).latest = some (notified notice) := by
  have empty : r.mNetworkInfo.getLast? = none := Option.map_eq_none_iff.mp first
  exact SystemStatus.latest_first rfl empty

theorem latest_step (there : r.latest = some info) : (r.step notice).latest =
    some (if equals info (collate (notified notice) info) then info else collate (notified notice) info) := by
  obtain ⟨back, last, rfl⟩ := Option.map_eq_some_iff.mp there
  exact SystemStatus.latest_next rfl last

end Latest

section Connect

variable {info : SystemStatusNetworkInfo}

theorem mem_packed {handles : List UInt64} {handle : UInt64} (known : handle ≠ networkHandleUnknown) :
    entry types handle ∈ packed types handles ↔ handle ∈ handles := by
  rw [packed, List.mem_append, List.mem_map]
  constructor
  · rintro (⟨other, member, same⟩ | pad)
    · obtain rfl : other = handle := congrArg NetworkInfoType.networkHandle same
      exact member
    · exact absurd (congrArg NetworkInfoType.networkHandle (List.eq_of_mem_replicate pad)) known
  · exact fun member => .inl ⟨handle, member, rfl⟩

/-- A table has its handles. -/
theorem Holds.mem_iff {connected : Finset UInt64} (holds : Holds types connected info) {handle : UInt64}
    (known : handle ≠ networkHandleUnknown) : entry types handle ∈ info.mAllNetworkHandles ↔ handle ∈ connected := by
  obtain ⟨handles, -, rfl, table⟩ := holds.table
  rw [table, mem_packed known, List.mem_toFinset]

/-- A connection is collated into the table and the mask. -/
theorem Holds.connect {connected : Finset UInt64} (holds : Holds types connected info)
    (valid : networkHandleUnknown ∉ connected) (known : notice.networkHandle ≠ networkHandleUnknown)
    (own : notice.type = types notice.networkHandle) (connects : notice.connected = true)
    (few : (insert notice.networkHandle connected).card ≤ maxNetworkHandles) :
    Holds types (insert notice.networkHandle connected) (collate (notified notice) info) := by
  obtain ⟨handles, distinct, rfl, table⟩ := holds.table
  rw [List.mem_toFinset] at valid
  obtain ⟨left, once, same, inserted⟩ := exists_insertHandle types distinct valid known few
  rw [← table, ← own] at inserted
  have mask := holds.mask.insert notice.networkHandle
  rw [← own] at mask
  rw [collate_connected connects]
  exact ⟨⟨left, once, same, inserted⟩, mask⟩

end Connect

section Disconnect

variable {info : SystemStatusNetworkInfo} {connected : Finset UInt64}

section Typed

variable (holds : Holds types connected info) (valid : networkHandleUnknown ∉ connected)
  (own : notice.type = types notice.networkHandle) (disconnects : notice.connected = false)
  (typed : typeToAllTypes notice.type ≠ 0)

include holds valid own disconnects typed

/-- A disconnection of a known type is collated into the table. -/
theorem Holds.table_disconnect (few : connected.card ≤ maxNetworkHandles) :
    ∃ handles : List UInt64, handles.Nodup ∧ handles.toFinset = connected.erase notice.networkHandle ∧
      (collate (notified notice) info).mAllNetworkHandles = packed types handles := by
  obtain ⟨handles, distinct, rfl, table⟩ := holds.table
  rw [List.mem_toFinset] at valid
  rw [List.toFinset_card_of_nodup distinct] at few
  obtain ⟨left, once, same, deleted⟩ := exists_deleteHandle types notice.networkHandle distinct valid few
  rw [← table, ← own] at deleted
  rw [collate_disconnected disconnects typed]
  exact ⟨left, once, same, deleted⟩

theorem Holds.table_of_not_mem (absent : notice.networkHandle ∉ connected) :
    (collate (notified notice) info).mAllNetworkHandles = info.mAllNetworkHandles := by
  obtain ⟨handles, distinct, rfl, table⟩ := holds.table
  rw [List.mem_toFinset] at valid absent
  rw [collate_disconnected disconnects typed]
  change deleteHandle _ (scan notice.networkHandle notice.type _ _).deletedIndex _ = _
  rw [table, own]
  exact deleteHandle_of_not_mem types distinct valid absent

/-- Its mask is that of the type alone if another handle has it. -/
theorem Holds.mask_disconnect : (collate (notified notice) info).mAllTypes =
    if ∀ other ∈ connected.erase notice.networkHandle, types other ≠ notice.type then
      info.mAllTypes &&& ~~~typeToAllTypes notice.type
    else typeToAllTypes notice.type := by
  obtain ⟨handles, distinct, rfl, table⟩ := holds.table
  rw [List.mem_toFinset] at valid
  have count := typeCount_eq_zero_iff types notice.networkHandle distinct valid
  rw [← table, ← own] at count
  rw [collate_disconnected disconnects typed]
  simp only [← count]
  rfl

/-- The mask is right exactly when no handle of the type is left or no handle of another. -/
theorem Holds.disconnect_iff (few : connected.card ≤ maxNetworkHandles) :
    Holds types (connected.erase notice.networkHandle) (collate (notified notice) info) ↔
      (∀ other ∈ connected.erase notice.networkHandle, types other ≠ notice.type) ∨
        ∀ other ∈ connected.erase notice.networkHandle,
          types other = notice.type ∨ typeToAllTypes (types other) = 0 := by
  have mask := holds.mask_disconnect valid own disconnects typed
  have kept : Holds types (connected.erase notice.networkHandle) (collate (notified notice) info) ↔
      HasTypes types (collate (notified notice) info).mAllTypes (connected.erase notice.networkHandle) :=
    ⟨Holds.mask, fun mask => ⟨holds.table_disconnect valid own disconnects typed few, mask⟩⟩
  rw [kept, mask]
  split_ifs with alone
  · rw [own] at alone typed ⊢
    exact iff_of_true (holds.mask.erase typed alone) (.inl alone)
  · rw [or_iff_right alone]
    push Not at alone
    obtain ⟨other, member, same⟩ := alone
    rw [← same]
    exact hasTypes_own_iff member

end Typed

/-- A disconnection of another type leaves the table as it is and no mask. -/
theorem Holds.untyped_iff (holds : Holds types connected info) (known : notice.networkHandle ≠ networkHandleUnknown)
    (disconnects : notice.connected = false) (untyped : typeToAllTypes notice.type = 0) :
    Holds types (connected.erase notice.networkHandle) (collate (notified notice) info) ↔
      notice.networkHandle ∉ connected ∧ ∀ other ∈ connected, typeToAllTypes (types other) = 0 := by
  have table : (collate (notified notice) info).mAllNetworkHandles = info.mAllNetworkHandles := by
    rw [collate_untyped disconnects untyped]
  have mask : (collate (notified notice) info).mAllTypes = 0 := by
    rw [collate_untyped disconnects untyped]
    exact untyped
  constructor
  · intro after
    have absent : notice.networkHandle ∉ connected := by
      intro member
      rw [← holds.mem_iff known, ← table, after.mem_iff known] at member
      exact absurd rfl (Finset.ne_of_mem_erase member)
    have none := after.mask
    rw [mask, Finset.erase_eq_of_notMem absent] at none
    exact ⟨absent, hasTypes_zero_iff.mp none⟩
  · rintro ⟨absent, none⟩
    rw [Finset.erase_eq_of_notMem absent]
    refine ⟨?_, ?_⟩
    · rw [table]
      exact holds.table
    · rw [mask]
      exact hasTypes_zero_iff.mpr none

/-- An item that is not replaced stays right exactly when the handle was not connected. -/
theorem Holds.erase_iff (holds : Holds types connected info) (known : notice.networkHandle ≠ networkHandleUnknown) :
    Holds types (connected.erase notice.networkHandle) info ↔ notice.networkHandle ∉ connected := by
  constructor
  · intro after member
    rw [← holds.mem_iff known, after.mem_iff known] at member
    exact absurd rfl (Finset.ne_of_mem_erase member)
  · intro absent
    rw [Finset.erase_eq_of_notMem absent]
    exact holds

end Disconnect

theorem Formed.start : Formed start := ⟨Finset.notMem_empty _, Nat.zero_le _, fun _ => rfl⟩

theorem Right.start : Right types start := by
  intro info there
  cases there

theorem Formed.step (formed : r.Formed) (within : r.InTable types notice) : (r.step notice).Formed where
  known := by
    rw [NetworkRun.step]
    split_ifs
    · exact fun member => (Finset.mem_insert.mp member).elim (fun same => within.1 same.symm) formed.known
    · exact fun member => formed.known (Finset.mem_of_mem_erase member)
  few := within.2.2
  first none := by
    cases before : r.latest with
    | none => exact absurd ((latest_step_first before).symm.trans none) (Option.some_ne_none _)
    | some info => exact absurd ((latest_step before).symm.trans none) (Option.some_ne_none _)

theorem connected_step_connect (connects : notice.connected = true) :
    (r.step notice).connected = insert notice.networkHandle r.connected := if_pos connects

theorem connected_step_disconnect (disconnects : notice.connected = false) :
    (r.step notice).connected = r.connected.erase notice.networkHandle := if_neg (ne_true_of_eq_false disconnects)

/-- A connection is always right. -/
theorem Right.connect (right : Right types r) (formed : r.Formed) (within : r.InTable types notice)
    (connects : notice.connected = true) : Right types (r.step notice) := by
  obtain ⟨known, own, few⟩ := within
  rw [connected_step_connect connects] at few
  intro after there
  rw [connected_step_connect connects]
  cases before : r.latest with
  | none =>
    obtain rfl : notified notice = after := Option.some_inj.mp ((latest_step_first before).symm.trans there)
    rw [formed.first before]
    refine ⟨⟨[notice.networkHandle], List.nodup_singleton _, rfl, ?_⟩, ?_⟩
    · rw [notified, SystemStatusNetworkInfo.ofType, own]
      rfl
    · have mask : HasTypes types (typeToAllTypes (types notice.networkHandle) ||| 0) (insert notice.networkHandle ∅) :=
        (hasTypes_zero_iff.mpr fun other member => absurd member (Finset.notMem_empty other)).insert _
      rw [UInt64.or_zero, ← own] at mask
      exact mask
  | some info =>
    have holds := right info before
    have collated := holds.connect formed.known known own connects few
    have next := Option.some_inj.mp ((latest_step before).symm.trans there)
    split_ifs at next with dropped
    · obtain rfl := next
      have table := (equals_collate_iff.mp dropped).2.1
      have member : notice.networkHandle ∈ r.connected := by
        rw [← holds.mem_iff known, table, collated.mem_iff known]
        exact Finset.mem_insert_self _ _
      rw [Finset.insert_eq_of_mem member]
      exact holds
    · obtain rfl := next
      exact collated

/-- A disconnection is right exactly when it leaves a mask of the handles that remain. -/
theorem right_disconnect_iff (right : Right types r) (formed : r.Formed) (within : r.InTable types notice)
    (disconnects : notice.connected = false) : Right types (r.step notice) ↔ r.MayNotify types notice := by
  obtain ⟨known, own, few⟩ := within
  have disconnected : ¬ notice.connected = true := ne_true_of_eq_false disconnects
  rw [Right, connected_step_disconnect disconnects, MayNotify, or_iff_right disconnected]
  cases before : r.latest with
  | none =>
    refine iff_of_false (fun all => ?_) fun some => ?_
    · have holds := all _ (latest_step_first before)
      have there : entry types notice.networkHandle ∈ (notified notice).mAllNetworkHandles := by
        rw [notified, SystemStatusNetworkInfo.ofType, own]
        exact List.mem_cons_self
      exact absurd rfl (Finset.ne_of_mem_erase ((holds.mem_iff known).mp there))
    · obtain ⟨info, there, -⟩ := some
      cases there
  | some info =>
    have holds := right info before
    have after : (∀ info', (r.step notice).latest = some info' →
        Holds types (r.connected.erase notice.networkHandle) info') ↔
        Holds types (r.connected.erase notice.networkHandle)
          (if equals info (collate (notified notice) info) then info else collate (notified notice) info) :=
      ⟨fun all => all _ (latest_step before),
        fun whole info' there => Option.some_inj.mp ((latest_step before).symm.trans there) ▸ whole⟩
    have same : (∃ info', some info = some info' ∧ (r.Repeats notice info' ∨ r.Leaves types notice)) ↔
        r.Repeats notice info ∨ r.Leaves types notice :=
      ⟨fun ⟨_, there, cases⟩ => Option.some_inj.mp there ▸ cases, fun cases => ⟨info, rfl, cases⟩⟩
    rw [after, same, Leaves]
    by_cases untyped : typeToAllTypes notice.type = 0
    · have table : (collate (notified notice) info).mAllNetworkHandles = info.mAllNetworkHandles := by
        rw [collate_untyped disconnects untyped]
      rw [if_pos untyped]
      split_ifs with drops
      · obtain ⟨before, -, name⟩ := equals_collate_iff.mp drops
        rw [holds.erase_iff known]
        exact ⟨fun absent => .inl ⟨absent, before.symm.trans disconnects, name⟩,
          fun cases => cases.elim (·.1) (·.1)⟩
      · have other : ¬ r.Repeats notice info := fun ⟨_, before, name⟩ =>
          drops (equals_collate_iff.mpr ⟨disconnects.trans before.symm, table.symm, name⟩)
        rw [or_iff_right other]
        exact holds.untyped_iff known disconnects untyped
    · rw [if_neg untyped]
      split_ifs with drops
      · obtain ⟨before, table, name⟩ := equals_collate_iff.mp drops
        have absent : notice.networkHandle ∉ r.connected := by
          obtain ⟨handles, -, left, result⟩ := holds.table_disconnect formed.known own disconnects untyped formed.few
          rw [← holds.mem_iff known, table, result, mem_packed known, ← List.mem_toFinset, left]
          exact Finset.notMem_erase _ _
        exact iff_of_true ((holds.erase_iff known).mpr absent) (.inl ⟨absent, before.symm.trans disconnects, name⟩)
      · have other : ¬ r.Repeats notice info := by
          rintro ⟨absent, before, name⟩
          have table := holds.table_of_not_mem formed.known own disconnects untyped absent
          exact drops (equals_collate_iff.mpr ⟨disconnects.trans before.symm, table.symm, name⟩)
        rw [or_iff_right other]
        exact holds.disconnect_iff formed.known own disconnects untyped formed.few

/-- In every run the latest item has the connected handles and the bits of their types exactly when each disconnection
leaves such an item. -/
theorem right_iff_mayNotify (types : UInt64 → Int32) (notices : List NetworkNotice)
    (within : EachStep step (InTable types) start notices) :
    Throughout step (Right types) start notices ↔ EachStep step (MayNotify types) start notices := by
  apply throughout_iff_eachStep_of (I := Formed) within Formed.start (fun _ _ formed within => formed.step within)
    Right.start
  intro r notice formed within right
  cases way : notice.connected with
  | true => exact iff_of_true (right.connect formed within way) (.inl way)
  | false => exact right_disconnect_iff right formed within way

/-- Two handles of different types, of which one is disconnected. -/
theorem right_iff_mayNotify_two : Throughout step (Right fun handle => if handle = 3 then 1 else 0) start
    [⟨0, true, 1, "", 1⟩, ⟨1, true, 3, "", 2⟩, ⟨1, false, 3, "", 3⟩] := by
  have within : EachStep step (InTable fun handle => if handle = 3 then 1 else 0) start
      [⟨0, true, 1, "", 1⟩, ⟨1, true, 3, "", 2⟩, ⟨1, false, 3, "", 3⟩] :=
    eachStep_cons ⟨by decide, rfl, by decide⟩ (eachStep_cons ⟨by decide, rfl, by decide⟩
      (eachStep_cons ⟨by decide, rfl, by decide⟩ eachStep_nil))
  apply (right_iff_mayNotify _ _ within).mpr
  have left : ((start.step ⟨0, true, 1, "", 1⟩).step ⟨1, true, 3, "", 2⟩).connected.erase 3 = {1} := by decide
  refine eachStep_cons (.inl rfl) (eachStep_cons (.inl rfl) (eachStep_cons (.inr ⟨_, rfl, .inr ?_⟩) eachStep_nil))
  refine .inl fun other member => ?_
  rw [left, Finset.mem_singleton] at member
  rw [member]
  decide

/-- One of two handles of a type is disconnected beside one of another. -/
theorem disconnect_loses_type : ¬ ∀ (types : UInt64 → Int32) (notices : List NetworkNotice),
    EachStep step (InTable types) start notices → Throughout step (Right types) start notices := by
  intro all
  have right := all (fun handle => if handle = 3 then 1 else 0)
    [⟨0, true, 1, "", 1⟩, ⟨0, true, 2, "", 2⟩, ⟨1, true, 3, "", 3⟩, ⟨0, false, 2, "", 4⟩]
    (eachStep_cons ⟨by decide, rfl, by decide⟩ (eachStep_cons ⟨by decide, rfl, by decide⟩
      (eachStep_cons ⟨by decide, rfl, by decide⟩ (eachStep_cons ⟨by decide, rfl, by decide⟩ eachStep_nil))))
  have mask := (right _ List.prefix_rfl _ rfl).mask 1
  exact absurd (mask.mpr ⟨3, by decide, by decide⟩) (by decide)

end NetworkRun

end Cypfr.SystemStatus
