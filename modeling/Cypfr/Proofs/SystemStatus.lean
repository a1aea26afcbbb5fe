import Cypfr.Model.SystemStatus
import Cypfr.ToMathlib.BitMask
import Mathlib.Data.Finset.Card
import Mathlib.Data.List.Perm.Basic
import Mathlib.Tactic.IntervalCases

/-! # The network table from report to report

A table is packed: its handles stand at the front, each with its type. A connected handle is put behind them and one
that is deleted is replaced by the last; the mask is that of the handles' types.
-/

namespace Cypfr.SystemStatus

section Reports

variable {T : Type} {ignore : T → Bool} {equals : T → T → Bool} {collate : T → T → T} {report : List (Reported T)}
  {s : Reported T}

theorem getLast?_setDefaultIteminReport : (setDefaultIteminReport report s).getLast? = some s := by
  rw [setDefaultIteminReport]
  cases report with
  | nil => rfl
  | cons first rest =>
    simp only [List.cons_append, List.tail_cons]
    split_ifs
    · exact List.getLast?_concat
    · rw [← List.cons_append]
      exact List.getLast?_concat

/-- The latest item after a first report. -/
theorem latest_first (heeded : ignore s.item = false) (empty : report.getLast? = none) :
    ((setIteminReport ignore equals collate report s).1.getLast?).map (·.item) = some s.item := by
  rw [setIteminReport, heeded, if_neg Bool.false_ne_true, empty]
  exact congrArg (Option.map _) getLast?_setDefaultIteminReport

/-- The latest item after another report. -/
theorem latest_next {back : Reported T} (heeded : ignore s.item = false) (there : report.getLast? = some back) :
    ((setIteminReport ignore equals collate report s).1.getLast?).map (·.item) =
      some (if equals back.item (collate s.item back.item) then back.item else collate s.item back.item) := by
  rw [setIteminReport, heeded, if_neg Bool.false_ne_true, there]
  cases same : equals back.item (collate s.item back.item) with
  | true => simp [same]
  | false =>
    simp only [same, Bool.false_eq_true, if_false]
    exact congrArg (Option.map _) getLast?_setDefaultIteminReport

end Reports

namespace SystemStatusNetworkInfo

variable {types : UInt64 → Int32} {handle : UInt64} {handles : List UInt64}

/-- The entry of a handle. -/
def entry (types : UInt64 → Int32) (handle : UInt64) : NetworkInfoType := ⟨handle, types handle⟩

/-- The table of these handles. -/
def packed (types : UInt64 → Int32) (handles : List UInt64) : List NetworkInfoType :=
  handles.map (entry types) ++ List.replicate (maxNetworkHandles - handles.length) .unknown

section Insert

theorem insertHandle_of_mem {rest : List NetworkInfoType} (valid : networkHandleUnknown ∉ handles)
    (member : handle ∈ handles) : insertHandle handle (types handle) (handles.map (entry types) ++ rest) =
      handles.map (entry types) ++ rest := by
  induction handles with
  | nil => exact absurd member List.not_mem_nil
  | cons first later ih =>
    rw [List.map_cons, List.cons_append, insertHandle]
    by_cases own : handle = first
    · exact if_pos own
    · obtain ⟨known, valid⟩ := not_or.mp (mt List.mem_cons.mpr valid)
      have rest := ih valid ((List.mem_cons.mp member).resolve_left own)
      rw [rest]
      exact (if_neg own).trans (if_neg known)

theorem insertHandle_of_not_mem {n : ℕ} (valid : networkHandleUnknown ∉ handles) (known : handle ≠ networkHandleUnknown)
    (new : handle ∉ handles) :
    insertHandle handle (types handle) (handles.map (entry types) ++ List.replicate (n + 1) .unknown) =
      (handles ++ [handle]).map (entry types) ++ List.replicate n .unknown := by
  induction handles with
  | nil => exact (if_neg known).trans (if_pos rfl)
  | cons first later ih =>
    obtain ⟨own, new⟩ := not_or.mp (mt List.mem_cons.mpr new)
    obtain ⟨other, valid⟩ := not_or.mp (mt List.mem_cons.mpr valid)
    rw [List.map_cons, List.cons_append, insertHandle, ih valid new]
    exact (if_neg own).trans (if_neg other)

/-- A connected handle is in the table. -/
theorem exists_insertHandle (types : UInt64 → Int32) (distinct : handles.Nodup)
    (valid : networkHandleUnknown ∉ handles) (known : handle ≠ networkHandleUnknown)
    (few : (insert handle handles.toFinset).card ≤ maxNetworkHandles) :
    ∃ left : List UInt64, left.Nodup ∧ left.toFinset = insert handle handles.toFinset ∧
      insertHandle handle (types handle) (packed types handles) = packed types left := by
  by_cases member : handle ∈ handles
  · refine ⟨handles, distinct, ?_, insertHandle_of_mem valid member⟩
    exact (Finset.insert_eq_of_mem (List.mem_toFinset.mpr member)).symm
  · have new : handle ∉ handles.toFinset := mt List.mem_toFinset.mp member
    rw [Finset.card_insert_of_notMem new, List.toFinset_card_of_nodup distinct] at few
    obtain ⟨n, pad⟩ : ∃ n, maxNetworkHandles - handles.length = n + 1 := Nat.exists_eq_succ_of_ne_zero (by omega)
    refine ⟨handles ++ [handle], ?_, ?_, ?_⟩
    · exact List.nodup_append_comm.mp (List.nodup_cons.mpr ⟨member, distinct⟩)
    · ext other
      simp
    · rw [packed, pad, insertHandle_of_not_mem valid known member, packed, List.length_append, List.length_singleton]
      congr 2
      omega

end Insert

section Delete

theorem scan_eq {n : ℕ} {found : Scan} (valid : networkHandleUnknown ∉ handles) (distinct : handles.Nodup) :
    scan handle (types handle) (handles.map (entry types) ++ List.replicate n .unknown) found =
      { deletedIndex := if handle ∈ handles then found.lastValidIndex + handles.idxOf handle else found.deletedIndex
        lastValidIndex := found.lastValidIndex + handles.length
        typeCount := found.typeCount +
          handles.countP fun other => decide (types other = types handle ∧ other ≠ handle) } := by
  induction handles generalizing found with
  | nil =>
    cases n with
    | zero => rfl
    | succ n => exact if_pos rfl
  | cons first later ih =>
    obtain ⟨known, valid⟩ := not_or.mp (mt List.mem_cons.mpr valid)
    obtain ⟨once, distinct⟩ := List.nodup_cons.mp distinct
    rw [List.map_cons, List.cons_append, scan]
    refine (if_neg known).trans ?_
    rw [ih valid distinct]
    by_cases own : handle = first
    · subst own
      have none : later.countP (fun other => decide (types other = types handle ∧ other ≠ handle)) =
          (handle :: later).countP fun other => decide (types other = types handle ∧ other ≠ handle) :=
        (List.countP_cons_of_neg (by simp)).symm
      rw [← none, if_neg once, if_pos List.mem_cons_self, List.idxOf_cons_self]
      simp only [entry, if_true, List.length_cons, Nat.add_zero, Scan.mk.injEq, and_true, true_and]
      omega
    · have different : first ≠ handle := fun same => own same.symm
      have within : handle ∈ first :: later ↔ handle ∈ later := by simp [own]
      have index : handle ∈ later → (first :: later).idxOf handle = later.idxOf handle + 1 :=
        fun _ => List.idxOf_cons_ne later different
      simp only [entry, own, within, List.length_cons, List.countP_cons, different, ne_eq, not_false_eq_true, and_true,
        if_false]
      by_cases same : types handle = types first
      · simp only [same, if_true, decide_true]
        split_ifs with member
        · rw [index member]
          simp only [Scan.mk.injEq]
          omega
        · simp only [Scan.mk.injEq, true_and]
          omega
      · have same' : types first ≠ types handle := fun equal => same equal.symm
        simp only [same, same', decide_false, Bool.false_eq_true, if_false]
        split_ifs with member
        · rw [index member]
          simp only [Scan.mk.injEq]
          omega
        · simp only [Scan.mk.injEq, true_and]
          omega

/-- The first of the entries that is deleted is replaced by the last. -/
theorem deleteHandle_eq (distinct : handles.Nodup) (few : handles.length ≤ maxNetworkHandles)
    (member : handle ∈ handles) : ∃ left : List UInt64, left.Perm (handles.erase handle) ∧
      deleteHandle (packed types handles) (handles.idxOf handle) (handles.length - 1) = packed types left := by
  obtain ⟨init, last, rfl⟩ := List.eq_nil_or_concat' handles |>.resolve_left (List.ne_nil_of_mem member)
  have length : (init ++ [last]).length = init.length + 1 := by simp
  have within := List.idxOf_lt_length_of_mem member
  have index : (init ++ [last]).idxOf handle ≠ maxNetworkHandles := by omega
  have pad : maxNetworkHandles - init.length = maxNetworkHandles - (init.length + 1) + 1 := by omega
  have top : (packed types (init ++ [last])).getD init.length .unknown = entry types last := by
    simp [packed, List.getD_eq_getElem?_getD]
  have whole : packed types (init ++ [last]) = init.map (entry types) ++
      entry types last :: List.replicate (maxNetworkHandles - (init.length + 1)) .unknown := by
    rw [packed, length, List.map_append, List.append_assoc]
    rfl
  rw [deleteHandle, if_neg index, length, Nat.add_sub_cancel, top, whole]
  by_cases inside : handle ∈ init
  · have place : (init ++ [last]).idxOf handle = init.idxOf handle := List.idxOf_append_of_mem inside
    have bound := List.idxOf_lt_length_of_mem inside
    refine ⟨init.set (init.idxOf handle) last, ?_, ?_⟩
    · rw [List.erase_append_left _ inside, ← List.eraseIdx_idxOf_eq_erase]
      exact (List.set_perm_cons_eraseIdx bound last).trans (List.perm_append_singleton _ _).symm
    · rw [place, packed, List.length_set, pad, List.map_set, List.set_append_left _ _ (by rwa [List.length_map]),
        List.set_append_right _ _ (by rw [List.length_set, List.length_map]), List.length_set, List.length_map,
        Nat.sub_self]
      rfl
  · obtain rfl : handle = last := by simpa [inside] using member
    have place : (init ++ [handle]).idxOf handle = init.length := by
      rw [List.idxOf_append_of_notMem inside, List.idxOf_cons_self, Nat.add_zero]
    refine ⟨init, ?_, ?_⟩
    · rw [List.erase_append_right _ inside, List.erase_cons_head, List.append_nil]
    · rw [place, packed, pad, List.set_append_right _ _ (by rw [List.length_map]), List.length_map, Nat.sub_self,
        List.set_cons_zero, List.set_append_right _ _ (by rw [List.length_map]), List.length_map, Nat.sub_self]
      rfl

/-- A handle that is no longer connected is not in the table. -/
theorem exists_deleteHandle (types : UInt64 → Int32) (handle : UInt64) (distinct : handles.Nodup)
    (valid : networkHandleUnknown ∉ handles) (few : handles.length ≤ maxNetworkHandles) :
    ∃ left : List UInt64, left.Nodup ∧ left.toFinset = handles.toFinset.erase handle ∧
      deleteHandle (packed types handles)
        (scan handle (types handle) (packed types handles) ⟨maxNetworkHandles, 0, 0⟩).deletedIndex
        ((scan handle (types handle) (packed types handles) ⟨maxNetworkHandles, 0, 0⟩).lastValidIndex - 1) =
          packed types left := by
  have found : scan handle (types handle) (packed types handles) ⟨maxNetworkHandles, 0, 0⟩ = _ :=
    scan_eq valid distinct
  rw [found]
  simp only [Nat.zero_add]
  by_cases member : handle ∈ handles
  · obtain ⟨left, same, deleted⟩ := deleteHandle_eq distinct few member
    refine ⟨left, same.nodup_iff.mpr (distinct.erase handle), ?_, ?_⟩
    · rw [List.toFinset_eq_of_perm _ _ same]
      ext other
      rw [List.mem_toFinset, distinct.mem_erase_iff, Finset.mem_erase, List.mem_toFinset]
    · rw [if_pos member]
      exact deleted
  · refine ⟨handles, distinct, ?_, ?_⟩
    · exact (Finset.erase_eq_of_notMem (mt List.mem_toFinset.mp member)).symm
    · rw [if_neg member]
      exact if_pos rfl

/-- A handle that is not in the table leaves it as it is. -/
theorem deleteHandle_of_not_mem (types : UInt64 → Int32) (distinct : handles.Nodup)
    (valid : networkHandleUnknown ∉ handles) (absent : handle ∉ handles) {lastValidIndex : ℕ} :
    deleteHandle (packed types handles)
      (scan handle (types handle) (packed types handles) ⟨maxNetworkHandles, 0, 0⟩).deletedIndex lastValidIndex =
        packed types handles := by
  have found : scan handle (types handle) (packed types handles) ⟨maxNetworkHandles, 0, 0⟩ = _ :=
    scan_eq valid distinct
  rw [found, if_neg absent]
  exact if_pos rfl

/-- No other handle of the type is found exactly when there is none. -/
theorem typeCount_eq_zero_iff (types : UInt64 → Int32) (handle : UInt64) (distinct : handles.Nodup)
    (valid : networkHandleUnknown ∉ handles) :
    (scan handle (types handle) (packed types handles) ⟨maxNetworkHandles, 0, 0⟩).typeCount = 0 ↔
      ∀ other ∈ handles.toFinset.erase handle, types other ≠ types handle := by
  have found : scan handle (types handle) (packed types handles) ⟨maxNetworkHandles, 0, 0⟩ = _ :=
    scan_eq valid distinct
  rw [found]
  simp only [Nat.zero_add, List.countP_eq_zero, decide_eq_true_eq, Finset.mem_erase, List.mem_toFinset]
  constructor
  · exact fun none other there same => none other there.2 ⟨same, there.1⟩
  · exact fun none other there both => none other ⟨both.2, there⟩ both.1

end Delete

section Collate

variable {info curInfo : SystemStatusNetworkInfo}

/-- The name of the access point after collating. -/
def collatedApn (info curInfo : SystemStatusNetworkInfo) : String :=
  if typeMobile ≠ info.mType ∧ curInfo.mApn ≠ "" then curInfo.mApn else info.mApn

theorem collate_connected (connects : info.mConnected = true) : collate info curInfo =
    { info with
      mApn := collatedApn info curInfo
      mAllTypes := info.mAllTypes ||| curInfo.mAllTypes
      mAllNetworkHandles := insertHandle info.mNetworkHandle info.mType curInfo.mAllNetworkHandles } := by
  rw [collate]
  exact if_pos connects

theorem collate_disconnected (disconnects : info.mConnected = false) (typed : info.mAllTypes ≠ 0) :
    collate info curInfo =
      { info with
        mApn := collatedApn info curInfo
        mAllNetworkHandles := deleteHandle curInfo.mAllNetworkHandles
          (scan info.mNetworkHandle info.mType curInfo.mAllNetworkHandles ⟨maxNetworkHandles, 0, 0⟩).deletedIndex
          ((scan info.mNetworkHandle info.mType curInfo.mAllNetworkHandles ⟨maxNetworkHandles, 0, 0⟩).lastValidIndex -
            1)
        mAllTypes :=
          if (scan info.mNetworkHandle info.mType curInfo.mAllNetworkHandles ⟨maxNetworkHandles, 0, 0⟩).typeCount =
            0 then
            curInfo.mAllTypes &&& ~~~info.mAllTypes
          else info.mAllTypes } := by
  rw [collate]
  exact (if_neg (ne_true_of_eq_false disconnects)).trans (if_pos typed)

theorem collate_untyped (disconnects : info.mConnected = false) (untyped : info.mAllTypes = 0) :
    collate info curInfo =
      { info with mApn := collatedApn info curInfo, mAllNetworkHandles := curInfo.mAllNetworkHandles } := by
  rw [collate]
  exact (if_neg (ne_true_of_eq_false disconnects)).trans (if_neg (not_not.mpr untyped))

theorem collate_apn_connected : (collate info curInfo).mApn = collatedApn info curInfo ∧
    (collate info curInfo).mConnected = info.mConnected := by
  cases connects : info.mConnected with
  | true =>
    rw [collate_connected connects]
    exact ⟨rfl, connects⟩
  | false =>
    by_cases typed : info.mAllTypes = 0
    · rw [collate_untyped connects typed]
      exact ⟨rfl, connects⟩
    · rw [collate_disconnected connects typed]
      exact ⟨rfl, connects⟩

theorem equals_iff {peer : SystemStatusNetworkInfo} : equals info peer = true ↔ peer.mConnected = info.mConnected ∧
    info.mAllNetworkHandles = peer.mAllNetworkHandles ∧ peer.mApn = info.mApn := by
  rw [equals, Bool.and_eq_true, Bool.and_eq_true, beq_iff_eq, beq_iff_eq, beq_iff_eq, and_assoc]

/-- When an item is dropped for the one before it. -/
theorem equals_collate_iff : equals curInfo (collate info curInfo) = true ↔ info.mConnected = curInfo.mConnected ∧
    curInfo.mAllNetworkHandles = (collate info curInfo).mAllNetworkHandles ∧
      (typeMobile ≠ info.mType ∧ curInfo.mApn ≠ "" ∨ info.mApn = curInfo.mApn) := by
  rw [equals_iff, collate_apn_connected.1, collate_apn_connected.2, collatedApn]
  split_ifs with named
  · simp [named]
  · rw [or_iff_right named]

end Collate

section Masks

/-- The mask is that of the types of these handles. -/
def HasTypes (types : UInt64 → Int32) (mask : UInt64) (connected : Finset UInt64) : Prop :=
  ∀ k, mask.toBitVec.getLsbD k = true ↔
    ∃ handle ∈ connected, (typeToAllTypes (types handle)).toBitVec.getLsbD k = true

variable {type type' : Int32} {mask : UInt64} {connected : Finset UInt64} {k : ℕ}

/-- A known type is the number of its bit. -/
theorem eq_ofNat_of_known (known : typeToAllTypes type ≠ 0) : type = Int32.ofNat type.toNatClampNeg ∧
    (typeToAllTypes type).toBitVec = BitVec.twoPow 64 type.toNatClampNeg := by
  have range : ¬ (typeUnknown ≤ type ∨ type < typeMobile) := by
    intro outside
    exact known (if_pos outside)
  obtain ⟨high, low⟩ := not_or.mp range
  have positive : 0 ≤ type := Int32.not_lt.mp low
  have below : type.toNatClampNeg < 10 := by
    have less : type.toInt < 10 := Int32.lt_iff_toInt_lt.mp (Int32.not_le.mp high)
    rw [Int32.toInt_eq_toNatClampNeg positive] at less
    omega
  have whole : Int32.ofNat type.toNatClampNeg = type := Int32.ofNat_toNatClampNeg type positive
  refine ⟨whole.symm, ?_⟩
  generalize type.toNatClampNeg = n at below whole
  subst whole
  interval_cases n <;> rfl

/-- A known type has a bit of its own, and the others have none. -/
theorem getLsbD_typeToAllTypes : (typeToAllTypes type).toBitVec.getLsbD k = true ↔
    typeToAllTypes type ≠ 0 ∧ k = type.toNatClampNeg ∧ k < 64 := by
  by_cases known : typeToAllTypes type = 0
  · rw [known]
    exact iff_of_false (by simp) fun has => has.1 rfl
  · rw [(eq_ofNat_of_known known).2, BitVec.getLsbD_twoPow, Bool.and_eq_true, decide_eq_true_eq, decide_eq_true_eq]
    constructor
    · rintro ⟨bound, rfl⟩
      exact ⟨known, rfl, bound⟩
    · rintro ⟨-, rfl, bound⟩
      exact ⟨bound, rfl⟩

theorem types_eq_of_getLsbD (has : (typeToAllTypes type).toBitVec.getLsbD k = true)
    (has' : (typeToAllTypes type').toBitVec.getLsbD k = true) : type = type' := by
  obtain ⟨known, index, -⟩ := getLsbD_typeToAllTypes.mp has
  obtain ⟨known', index', -⟩ := getLsbD_typeToAllTypes.mp has'
  rw [(eq_ofNat_of_known known).1, (eq_ofNat_of_known known').1, ← index, ← index']

theorem exists_getLsbD_iff : (∃ k, (typeToAllTypes type).toBitVec.getLsbD k = true) ↔ typeToAllTypes type ≠ 0 := by
  rw [Ne, ← UInt64.toBitVec_inj]
  exact BitMask.ne_zero_iff.symm

variable {types : UInt64 → Int32} {handle : UInt64}

theorem HasTypes.insert (has : HasTypes types mask connected) (handle : UInt64) :
    HasTypes types (typeToAllTypes (types handle) ||| mask) (insert handle connected) := by
  intro k
  rw [UInt64.toBitVec_or, BitVec.getLsbD_or, Bool.or_eq_true, has k, Finset.exists_mem_insert]

/-- A type that no other handle has is taken out with the handle. -/
theorem HasTypes.erase (has : HasTypes types mask connected) (known : typeToAllTypes (types handle) ≠ 0)
    (alone : ∀ other ∈ connected.erase handle, types other ≠ types handle) :
    HasTypes types (mask &&& ~~~typeToAllTypes (types handle)) (connected.erase handle) := by
  intro k
  rw [UInt64.toBitVec_and, UInt64.toBitVec_not, BitVec.getLsbD_and, BitVec.getLsbD_not, Bool.and_eq_true,
    Bool.and_eq_true, Bool.not_eq_true', has k]
  constructor
  · rintro ⟨⟨other, member, bit⟩, -, without⟩
    refine ⟨other, Finset.mem_erase.mpr ⟨?_, member⟩, bit⟩
    rintro rfl
    exact absurd (without.symm.trans bit) Bool.false_ne_true
  · rintro ⟨other, member, bit⟩
    have bound := (getLsbD_typeToAllTypes.mp bit).2.2
    refine ⟨⟨other, Finset.mem_of_mem_erase member, bit⟩, decide_eq_true bound, Bool.eq_false_iff.mpr fun own => ?_⟩
    exact alone other member (types_eq_of_getLsbD bit own)

/-- The bit of one type alone is the mask of handles of which one has it. -/
theorem hasTypes_own_iff {first : UInt64} (member : first ∈ connected) :
    HasTypes types (typeToAllTypes (types first)) connected ↔
      ∀ other ∈ connected, types other = types first ∨ typeToAllTypes (types other) = 0 := by
  constructor
  · intro has other there
    by_contra neither
    obtain ⟨different, known⟩ := not_or.mp neither
    obtain ⟨k, bit⟩ := exists_getLsbD_iff.mpr known
    exact different (types_eq_of_getLsbD bit ((has k).mpr ⟨other, there, bit⟩))
  · intro only k
    constructor
    · exact fun bit => ⟨first, member, bit⟩
    · rintro ⟨other, there, bit⟩
      rcases only other there with same | none
      · exact same ▸ bit
      · exact absurd none (getLsbD_typeToAllTypes.mp bit).1

/-- No bit is the mask of handles whose types are not known. -/
theorem hasTypes_zero_iff : HasTypes types 0 connected ↔ ∀ other ∈ connected, typeToAllTypes (types other) = 0 := by
  constructor
  · intro has other there
    by_contra known
    obtain ⟨k, bit⟩ := exists_getLsbD_iff.mpr known
    exact absurd ((has k).mpr ⟨other, there, bit⟩) (by simp)
  · intro none k
    constructor
    · intro bit
      simp at bit
    · rintro ⟨other, there, bit⟩
      exact absurd (none other there) (getLsbD_typeToAllTypes.mp bit).1

end Masks

end SystemStatusNetworkInfo

end Cypfr.SystemStatus
