import Cypfr.Proofs.GptHeader
import Cypfr.ToMathlib.Regions

/-! # The four regions of a partitioned disk

A disk with two GPT copies has two header blocks and two entry arrays, at the places the headers
announce. Code that never changes those announcements is a list of region writes, and its effect on
the disk is its effect on the contents of the regions. Everything else on the disk stays.
-/

namespace Cypfr.Gpt

open ByteList Regions Journal

inductive Region where
  | primaryHeader
  | primaryArray
  | secondaryHeader
  | secondaryArray
deriving DecidableEq

def GptInstance.header : GptInstance → Region
  | .primaryGpt => .primaryHeader
  | .secondaryGpt => .secondaryHeader

def GptInstance.array : GptInstance → Region
  | .primaryGpt => .primaryArray
  | .secondaryGpt => .secondaryArray

/-- The contents of the regions. -/
abbrev Tables := Region → Bytes

namespace BlockDevice

def primaryHeader (d : BlockDevice) : Bytes := d.read d.blkSize d.blkSize

def secondaryHeader (d : BlockDevice) : Bytes := d.read (d.bytes.length - d.blkSize) d.blkSize

/-- Where the headers of the disk place the regions. -/
def layout (d : BlockDevice) : Layout Region where
  off
    | .primaryHeader => d.blkSize
    | .primaryArray => pentriesStart d.blkSize d.primaryHeader
    | .secondaryHeader => d.bytes.length - d.blkSize
    | .secondaryArray => pentriesStart d.blkSize d.secondaryHeader
  len
    | .primaryHeader => d.blkSize
    | .primaryArray => pentriesSize d.primaryHeader
    | .secondaryHeader => d.blkSize
    | .secondaryArray => pentriesSize d.secondaryHeader

def tables (d : BlockDevice) : Tables := d.layout.view d.bytes

/-- A block holds the header fields, a header is no longer than a block, the copies announce arrays of
one size, and the four regions lie on the disk without overlap. -/
structure WellFormed (d : BlockDevice) : Prop where
  block : 92 ≤ d.blkSize
  primarySize : get4 d.primaryHeader headerSizeOffset ≤ d.blkSize
  secondarySize : get4 d.secondaryHeader headerSizeOffset ≤ d.blkSize
  sameSize : pentriesSize d.primaryHeader = pentriesSize d.secondaryHeader
  fits : d.layout.Fits d.bytes.length

@[simp] theorem tables_primaryHeader (d : BlockDevice) : d.tables .primaryHeader = d.primaryHeader := rfl

namespace WellFormed

variable {d : BlockDevice}

theorem length_tables (wf : d.WellFormed) (r : Region) : (d.tables r).length = d.layout.len r :=
  Layout.length_view wf.fits r

theorem length_header (wf : d.WellFormed) (gpt : GptInstance) : (d.tables gpt.header).length = d.blkSize := by
  cases gpt <;> exact wf.length_tables _

theorem length_arrays (wf : d.WellFormed) :
    (d.tables .primaryArray).length = (d.tables .secondaryArray).length := by
  rw [wf.length_tables, wf.length_tables]
  exact wf.sameSize

/-- An array of entries of one size is a whole number of them. -/
theorem whole_array (wf : d.WellFormed) (entrySize : get4 d.primaryHeader pentrySizeOffset = ptnEntrySize) :
    ptnEntrySize ∣ (d.tables .primaryArray).length := by
  rw [wf.length_tables]
  simp only [layout, pentriesSize, entrySize]
  exact (Nat.dvd_mod_iff (by decide)).mpr (Nat.dvd_mul_left ..)

theorem headerOffset (wf : d.WellFormed) (gpt : GptInstance) :
    headerOffset d gpt = some (d.layout.off gpt.header) := by
  cases gpt with
  | primaryGpt => rfl
  | secondaryGpt =>
    have inside := wf.fits.inside .secondaryHeader
    simp only [layout] at inside
    have block := wf.block
    rw [Gpt.headerOffset, if_neg (by omega)]
    rfl

end WellFormed

end BlockDevice

theorem read_header {d : BlockDevice} (gpt : GptInstance) :
    d.read (d.layout.off gpt.header) d.blkSize = d.tables gpt.header := by
  cases gpt <;> rfl

/-- The header has the signature and a matching CRC, and the array matches the partition CRC. -/
def usable (d : BlockDevice) (gpt : GptInstance) : Bool :=
  match headerOffset d gpt with
  | none => false
  | some offset =>
    let header := d.read offset d.blkSize
    headerState header = .gptOk &&
      get4 header partitionCrcOffset == Crc32.crc32 (d.read (pentriesStart d.blkSize header) (pentriesSize header))

/-- The same over the contents of the regions. -/
structure UsableTables (T : Tables) (gpt : GptInstance) : Prop where
  crcOk : CrcOk (T gpt.header)
  sigOk : SigOk (T gpt.header)
  table : get4 (T gpt.header) partitionCrcOffset = Crc32.crc32 (T gpt.array)

theorem usable_iff {d : BlockDevice} (wf : d.WellFormed) (gpt : GptInstance) :
    usable d gpt = true ↔ UsableTables d.tables gpt := by
  have array : d.read (pentriesStart d.blkSize (d.tables gpt.header)) (pentriesSize (d.tables gpt.header)) =
      d.tables gpt.array := by cases gpt <;> rfl
  simp only [usable, wf.headerOffset gpt, read_header, array, Bool.and_eq_true, decide_eq_true_eq, beq_iff_eq,
    headerState_eq_ok]
  exact ⟨fun h => ⟨h.1.1, h.1.2, h.2⟩, fun h => ⟨⟨h.crcOk, h.sigOk⟩, h.table⟩⟩

/-- A region may take new contents of its length; a header keeps what it announces. -/
def Fitting (T : Tables) (r : Region) (new : Bytes) : Prop :=
  new.length = (T r).length ∧
    ((r = .primaryHeader ∨ r = .secondaryHeader) → SameGeometry new (T r))

theorem fitting_header {T : Tables} (gpt : GptInstance) {new : Bytes} (same : SameGeometry new (T gpt.header)) :
    Fitting T gpt.header new := ⟨same.length, fun _ => same⟩

theorem fitting_array {T : Tables} (gpt : GptInstance) {new : Bytes} (length : new.length = (T gpt.array).length) :
    Fitting T gpt.array new := by
  refine ⟨length, ?_⟩
  cases gpt <;> simp [GptInstance.array]

/-- The disk after some fitting writes of its regions. -/
structure Rewritten (d d' : BlockDevice) : Prop where
  blkSize : d'.blkSize = d.blkSize
  layout : d'.layout = d.layout
  outside : d.layout.SameOutside d.bytes d'.bytes
  geometry : ∀ gpt : GptInstance, SameGeometry (d'.tables gpt.header) (d.tables gpt.header)
  wellFormed : d'.WellFormed

namespace Rewritten

theorem refl {d : BlockDevice} (wf : d.WellFormed) : Rewritten d d := ⟨rfl, rfl, .refl _ _, fun _ => .refl _, wf⟩

theorem trans {d d' d'' : BlockDevice} (first : Rewritten d d') (second : Rewritten d' d'') : Rewritten d d'' :=
  ⟨second.blkSize.trans first.blkSize, second.layout.trans first.layout,
    first.outside.trans (first.layout ▸ second.outside),
    fun gpt => (second.geometry gpt).trans (first.geometry gpt), second.wellFormed⟩

theorem length_tables {d d' : BlockDevice} (wf : d.WellFormed) (rewritten : Rewritten d d') (r : Region) :
    (d'.tables r).length = (d.tables r).length := by
  rw [rewritten.wellFormed.length_tables, wf.length_tables, rewritten.layout]

/-- Two disks that come from one by rewriting its regions are equal when their regions are. -/
theorem eq_of_tables {d a b : BlockDevice} (left : Rewritten d a) (right : Rewritten d b)
    (same : a.tables = b.tables) : a = b := by
  have bytes : a.bytes = b.bytes := by
    apply (left.outside.symm.trans right.outside).eq_of_view
    have views := same
    simp only [BlockDevice.tables, left.layout, right.layout] at views
    exact views
  obtain ⟨blkA, bytesA⟩ := a
  obtain ⟨blkB, bytesB⟩ := b
  have blocks : blkA = blkB := left.blkSize.trans right.blkSize.symm
  simp only at bytes
  rw [blocks, bytes]

end Rewritten

/-- The effect of one fitting region write. -/
theorem write_region {d : BlockDevice} (wf : d.WellFormed) {r : Region} {new : Bytes}
    (fitting : Fitting d.tables r new) :
    Rewritten d (d.write (d.layout.off r, new)) ∧
      (d.write (d.layout.off r, new)).tables = Function.update d.tables r new := by
  obtain ⟨length, geometry⟩ := fitting
  rw [wf.length_tables] at length
  have view := Layout.view_write wf.fits length
  set d' := d.write (d.layout.off r, new) with written
  have size : d'.bytes.length = d.bytes.length := length_write ..
  have primary : d'.primaryHeader = Function.update d.tables r new .primaryHeader := congrFun view .primaryHeader
  have secondary : d'.secondaryHeader = Function.update d.tables r new .secondaryHeader := by
    rw [BlockDevice.secondaryHeader, size]
    exact congrFun view .secondaryHeader
  have samePrimary : SameGeometry d'.primaryHeader d.primaryHeader := by
    rw [primary, Function.update_apply]
    split_ifs with here
    · subst here; exact geometry (.inl rfl)
    · exact .refl _
  have sameSecondary : SameGeometry d'.secondaryHeader d.secondaryHeader := by
    rw [secondary, Function.update_apply]
    split_ifs with here
    · subst here; exact geometry (.inr rfl)
    · exact .refl _
  have layout : d'.layout = d.layout := by
    simp only [BlockDevice.layout, samePrimary.pentriesStart, samePrimary.pentriesSize, sameSecondary.pentriesStart,
      sameSecondary.pentriesSize, size]
    rfl
  refine ⟨⟨rfl, layout, Layout.sameOutside_write r length, ?_, ?_⟩, ?_⟩
  · intro gpt
    cases gpt with
    | primaryGpt => exact samePrimary
    | secondaryGpt => exact sameSecondary
  · refine ⟨wf.block, ?_, ?_, ?_, ?_⟩
    · rw [samePrimary.headerSize]; exact wf.primarySize
    · rw [sameSecondary.headerSize]; exact wf.secondarySize
    · rw [samePrimary.pentriesSize, sameSecondary.pentriesSize]; exact wf.sameSize
    · rw [layout, size]; exact wf.fits
  · rw [BlockDevice.tables, layout]
    exact view

/-- A list of region writes, each fitting the contents the earlier ones leave. -/
def Plan : Tables → List (Region × Bytes) → Prop
  | _, [] => True
  | T, (r, new) :: rest => Fitting T r new ∧ Plan (Function.update T r new) rest

/-- The contents after a list of region writes. -/
def applyPlan (T : Tables) (plan : List (Region × Bytes)) : Tables :=
  plan.foldl (fun T w => Function.update T w.1 w.2) T

/-- A plan as writes to the disk. -/
def BlockDevice.place (d : BlockDevice) (plan : List (Region × Bytes)) : List (ℕ × Bytes) :=
  plan.map fun w => (d.layout.off w.1, w.2)

theorem Plan.take {T : Tables} {plan : List (Region × Bytes)} (fitting : Plan T plan) (k : ℕ) :
    Plan T (plan.take k) := by
  induction plan generalizing T k with
  | nil => simpa using fitting
  | cons w rest ih =>
    cases k with
    | zero => trivial
    | succ k => exact ⟨fitting.1, ih fitting.2 k⟩

/-- `I` holds before, between and after the writes of a plan. -/
def Throughout (I : Tables → Prop) : Tables → List (Region × Bytes) → Prop
  | T, [] => I T
  | T, (r, new) :: rest => I T ∧ Throughout I (Function.update T r new) rest

theorem Throughout.take {I : Tables → Prop} {T : Tables} {plan : List (Region × Bytes)}
    (throughout : Throughout I T plan) (k : ℕ) : I (applyPlan T (plan.take k)) := by
  induction plan generalizing T k with
  | nil => rw [List.take_nil]; exact throughout
  | cons w rest ih =>
    cases k with
    | zero => exact throughout.1
    | succ k => exact ih throughout.2 k

/-- A region a plan writes ends the same wherever it starts. -/
theorem applyPlan_congr {T T' : Tables} {plan : List (Region × Bytes)} {r : Region}
    (covered : r ∈ plan.map Prod.fst ∨ T r = T' r) : applyPlan T plan r = applyPlan T' plan r := by
  induction plan generalizing T T' with
  | nil => simpa [applyPlan] using covered
  | cons w rest ih =>
    apply ih
    by_cases here : r = w.1
    · subst here; right; simp
    · refine covered.imp (fun member => ?_) fun same => ?_
      · exact (List.mem_cons.mp member).resolve_left here
      · simpa [Function.update_of_ne here] using same

theorem applyPlan_other {T : Tables} {plan : List (Region × Bytes)} {r : Region}
    (untouched : r ∉ plan.map Prod.fst) : applyPlan T plan r = T r := by
  induction plan generalizing T with
  | nil => rfl
  | cons w rest ih =>
    simp only [List.map_cons, List.mem_cons, not_or] at untouched
    exact (ih untouched.2).trans (Function.update_of_ne untouched.1 _ _)

/-- Carrying out a plan over the regions that a part of it has already written is carrying it out. -/
theorem applyPlan_redo (T : Tables) (plan : List (Region × Bytes)) (k : ℕ) :
    applyPlan (applyPlan T (plan.take k)) plan = applyPlan T plan := by
  funext r
  apply applyPlan_congr
  by_cases written : r ∈ plan.map Prod.fst
  · exact .inl written
  · refine .inr (applyPlan_other fun member => written ?_)
    rw [List.map_take] at member
    exact List.mem_of_mem_take member

/-- Carrying out a plan on the disk is carrying it out on its regions. -/
theorem foldl_place {d : BlockDevice} (wf : d.WellFormed) {plan : List (Region × Bytes)}
    (fitting : Plan d.tables plan) :
    Rewritten d ((d.place plan).foldl BlockDevice.write d) ∧
      ((d.place plan).foldl BlockDevice.write d).tables = applyPlan d.tables plan := by
  induction plan generalizing d with
  | nil => exact ⟨.refl wf, rfl⟩
  | cons w rest ih =>
    obtain ⟨first, tables⟩ := write_region wf fitting.1
    have same : (d.place rest) = (d.write (d.layout.off w.1, w.2)).place rest := by
      rw [BlockDevice.place, BlockDevice.place, first.layout]
    obtain ⟨later, result⟩ := ih first.wellFormed (tables ▸ fitting.2)
    rw [BlockDevice.place, List.map_cons, List.foldl_cons, ← BlockDevice.place, same]
    exact ⟨first.trans later, by rw [result, tables]; rfl⟩

/-- A program followed by another one that is known at the state the first leaves. -/
theorem bind_place {d : BlockDevice} {p : DiskProg ℤ} {next : ℤ → DiskProg ℤ} {r r' : ℤ}
    {plan plan' : List (Region × Bytes)} (wf : d.WellFormed) (first : p d = (r, d.place plan))
    (fitting : Plan d.tables plan)
    (second : ∀ d', Rewritten d d' → d'.tables = applyPlan d.tables plan → next r d' = (r', d'.place plan')) :
    (p >>= next) d = (r', d.place (plan ++ plan')) := by
  obtain ⟨rewritten, tables⟩ := foldl_place wf fitting
  rw [Prog.bind_apply, first]
  simp only
  rw [second _ rewritten tables, BlockDevice.place, rewritten.layout, ← BlockDevice.place]
  simp only [BlockDevice.place, List.map_append]

end Cypfr.Gpt
