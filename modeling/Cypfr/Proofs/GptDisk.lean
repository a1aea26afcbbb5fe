import Cypfr.Model.GptDisk
import Cypfr.Proofs.GptTables

/-! # GPT disks in memory and on the device

Reading a disk of a well-formed device gives the contents of its regions. Writing back a disk that fits
the device is a plan of four region writes, header before array and primary before backup.
-/

namespace Cypfr.Gpt

open ByteList Journal

section Store

variable {s : Store} {path : String} {d : BlockDevice}

theorem foldl_tagged (here : s path = some d) (writes : List (ℕ × Bytes)) :
    (writes.map fun w => (path, w)).foldl Store.write s =
      Function.update s path (some (writes.foldl BlockDevice.write d)) := by
  induction writes generalizing s d with
  | nil => rw [List.map_nil, List.foldl_nil, List.foldl_nil, ← here, Function.update_eq_self]
  | cons w rest ih =>
    have first : Store.write s (path, w) = Function.update s path (some (d.write w)) := by simp [Store.write, here]
    rw [List.map_cons, List.foldl_cons, List.foldl_cons, first, ih (Function.update_self ..), Function.update_idem]

theorem result_onDevice (here : s path = some d) (p : DiskProg ℤ) : (onDevice path p).result s = p.result d := by
  simp only [Prog.result, onDevice, here]

theorem cut_onDevice (here : s path = some d) (p : DiskProg ℤ) (k : ℕ) :
    (onDevice path p).cut s k = Function.update s path (some (p.cut d k)) := by
  simp only [Prog.cut, Prog.writes, onDevice, here, ← List.map_take]
  exact foldl_tagged here _

theorem final_onDevice (here : s path = some d) (p : DiskProg ℤ) :
    (onDevice path p).final s = Function.update s path (some (p.final d)) := by
  simp only [Prog.final, Prog.writes, onDevice, here]
  exact foldl_tagged here _

end Store

/-- Every device of the store has the property. -/
def Store.All (P : BlockDevice → Prop) (s : Store) : Prop := ∀ path d, s path = some d → P d

/-- The disk in memory that holds the regions of a device. -/
def loadDisk (path : String) (d : BlockDevice) : GptDisk where
  hdr gpt := d.tables gpt.header
  pentryArr gpt := d.tables gpt.array
  pentryArrSize := pentriesSize d.primaryHeader
  pentrySize := get4 d.primaryHeader pentrySizeOffset
  devpath := path

@[simp] theorem pentryArr_loadDisk (path : String) (d : BlockDevice) (gpt : GptInstance) :
    (loadDisk path d).pentryArr gpt = d.tables gpt.array := rfl

theorem gptGetHeader_eq {d : BlockDevice} (wf : d.WellFormed) (gpt : GptInstance) :
    gptGetHeader d gpt = some (d.tables gpt.header) := by
  have block := wf.block
  rw [gptGetHeader, if_neg (by omega), wf.headerOffset, Option.map_some, read_header]

/-- On well-formed devices the code reads the regions. -/
theorem gptDiskGetDiskInfo_eq {s : Store} (wf : s.All BlockDevice.WellFormed) (env : Env) (partname : String) :
    gptDiskGetDiskInfo env s partname = (env.devPath partname).bind fun path => (s path).map (loadDisk path) := by
  simp only [gptDiskGetDiskInfo, Option.bind_eq_bind, Option.pure_def]
  cases env.devPath partname with
  | none => rfl
  | some path =>
    simp only [Option.bind_some]
    cases here : s path with
    | none => rfl
    | some d =>
      simp only [Option.bind_some, gptGetHeader_eq (wf path d here), Option.map_some, Option.some.injEq, loadDisk]
      congr 1
      · funext gpt; cases gpt <;> rfl
      · funext gpt; cases gpt <;> rfl

theorem gptDiskGetDiskInfo_eq_some {s : Store} (wf : s.All BlockDevice.WellFormed) {env : Env} {partname : String}
    {disk : GptDisk} (loaded : gptDiskGetDiskInfo env s partname = some disk) :
    ∃ path d, env.devPath partname = some path ∧ s path = some d ∧ disk = loadDisk path d := by
  rw [gptDiskGetDiskInfo_eq wf, Option.bind_eq_some_iff] at loaded
  obtain ⟨path, resolved, loaded⟩ := loaded
  obtain ⟨d, here, rfl⟩ := Option.map_eq_some_iff.mp loaded
  exact ⟨path, d, resolved, here, rfl⟩

/-- A disk in memory that can be written to the device: its headers announce what the device's do, and
its arrays have the right size. -/
structure Fits (disk : GptDisk) (d : BlockDevice) : Prop where
  header : ∀ gpt : GptInstance, SameGeometry (disk.hdr gpt) (d.tables gpt.header)
  array : ∀ gpt : GptInstance, (disk.pentryArr gpt).length = (d.tables gpt.array).length
  arrSize : disk.pentryArrSize = (d.tables .primaryArray).length
  entrySize : disk.pentrySize = get4 (d.tables .primaryHeader) pentrySizeOffset

theorem fits_loadDisk {d : BlockDevice} (wf : d.WellFormed) (path : String) : Fits (loadDisk path d) d :=
  ⟨fun _ => .refl _, fun _ => rfl, (wf.length_tables .primaryArray).symm, rfl⟩

namespace Fits

variable {disk : GptDisk} {d d' : BlockDevice}

theorem rewritten (fits : Fits disk d) (wf : d.WellFormed) (rewritten : Rewritten d d') : Fits disk d' where
  header gpt := (fits.header gpt).trans (rewritten.geometry gpt).symm
  array gpt := (fits.array gpt).trans (rewritten.length_tables wf gpt.array).symm
  arrSize := fits.arrSize.trans (rewritten.length_tables wf .primaryArray).symm
  entrySize := fits.entrySize.trans (rewritten.geometry .primaryGpt).pentrySize.symm

/-- Both arrays have the size the code takes for each of them. -/
theorem take_arr (fits : Fits disk d) (wf : d.WellFormed) (gpt : GptInstance) :
    (disk.pentryArr gpt).take disk.pentryArrSize = disk.pentryArr gpt := by
  have length := fits.array gpt
  have sizes := wf.length_arrays
  rw [fits.arrSize, List.take_of_length_le]
  cases gpt with
  | primaryGpt => exact length.le
  | secondaryGpt => exact (length.trans sizes.symm).le

end Fits

/-- The writes of `gpt_disk_commit`. -/
def commitPlan (disk : GptDisk) : List (Region × Bytes) :=
  [(.primaryHeader, disk.hdr .primaryGpt), (.primaryArray, disk.pentryArr .primaryGpt),
    (.secondaryHeader, disk.hdr .secondaryGpt), (.secondaryArray, disk.pentryArr .secondaryGpt)]

section Commit

variable {disk : GptDisk} {d : BlockDevice}

theorem gptSetHeader_refines (wf : d.WellFormed) {hdr : Bytes} {gpt : GptInstance}
    (length : hdr.length = (d.tables gpt.header).length) :
    gptSetHeader hdr gpt d = (0, d.place [(gpt.header, hdr)]) := by
  have block := wf.block
  have inside := wf.fits.inside .primaryHeader
  simp only [BlockDevice.layout] at inside
  have offset : d.layout.off gpt.header ≠ 0 := by
    cases gpt <;> simp only [GptInstance.header, BlockDevice.layout] <;> omega
  rw [wf.length_header] at length
  rw [gptSetHeader, Prog.get_bind_apply, if_neg (by omega), wf.headerOffset]
  simp only [offset, if_false, List.take_of_length_le length.le]
  rfl

theorem gptSetPentryArr_refines (wf : d.WellFormed) {hdr arr : Bytes} {gpt : GptInstance}
    (geometry : SameGeometry hdr (d.tables gpt.header)) (length : arr.length = (d.tables gpt.array).length) :
    gptSetPentryArr hdr arr d = (0, d.place [(gpt.array, arr)]) := by
  have block := wf.block
  have start : pentriesStart d.blkSize (d.tables gpt.header) = d.layout.off gpt.array := by cases gpt <;> rfl
  have size : pentriesSize (d.tables gpt.header) = d.layout.len gpt.array := by cases gpt <;> rfl
  rw [wf.length_tables] at length
  rw [gptSetPentryArr, Prog.get_bind_apply, if_neg (by omega), geometry.pentriesStart, geometry.pentriesSize, start,
    size, List.take_of_length_le length.le]
  rfl

theorem plan_copy (fits : Fits disk d) (gpt : GptInstance) :
    Plan d.tables [(gpt.header, disk.hdr gpt), (gpt.array, disk.pentryArr gpt)] := by
  refine ⟨fitting_header gpt (fits.header gpt), fitting_array gpt ?_, trivial⟩
  have other : gpt.array ≠ gpt.header := by cases gpt <;> decide
  rw [Function.update_of_ne other]
  exact fits.array gpt

theorem commitCopy_refines (wf : d.WellFormed) (fits : Fits disk d) (gpt : GptInstance) :
    commitCopy disk gpt d = (0, d.place [(gpt.header, disk.hdr gpt), (gpt.array, disk.pentryArr gpt)]) := by
  have plan := plan_copy fits gpt
  refine bind_place wf (gptSetHeader_refines wf (fits.header gpt).length) ⟨plan.1, trivial⟩
    fun d' rewritten _ => ?_
  have fits' := fits.rewritten wf rewritten
  simp only [ne_eq, not_true_eq_false, if_false]
  rw [Prog.bind_apply, gptSetPentryArr_refines rewritten.wellFormed (fits'.header gpt) (fits'.array gpt)]
  simp only [not_true_eq_false, if_false, Prog.pure_apply, List.append_nil]

theorem plan_commit (fits : Fits disk d) : Plan d.tables (commitPlan disk) := by
  obtain ⟨header, array, -⟩ := plan_copy fits .primaryGpt
  obtain ⟨headerBak, arrayBak, -⟩ := plan_copy fits .secondaryGpt
  exact ⟨header, array, headerBak, arrayBak, trivial⟩

/-- Writing back a disk that fits the device is its plan. -/
theorem commitCopies_refines (wf : d.WellFormed) (fits : Fits disk d) :
    commitCopies disk d = (0, d.place (commitPlan disk)) := by
  refine bind_place wf (commitCopy_refines wf fits .primaryGpt) (plan_copy fits .primaryGpt) fun d' rewritten _ => ?_
  simp only [ne_eq, not_true_eq_false, if_false]
  exact commitCopy_refines rewritten.wellFormed (fits.rewritten wf rewritten) .secondaryGpt

/-- A completed commit returns 0 and leaves the headers and arrays of the disk on the device. -/
theorem run_gptDiskCommit {s : Store} (here : s disk.devpath = some d) (wf : d.WellFormed) (fits : Fits disk d) :
    (gptDiskCommit disk).result s = 0 ∧ ∃ d', Rewritten d d' ∧
      (∀ gpt : GptInstance, d'.tables gpt.header = disk.hdr gpt ∧ d'.tables gpt.array = disk.pentryArr gpt) ∧
      (gptDiskCommit disk).final s = Function.update s disk.devpath (some d') := by
  have run := commitCopies_refines wf fits
  obtain ⟨rewritten, tables⟩ := foldl_place wf (plan_commit fits)
  refine ⟨?_, _, rewritten, ?_, ?_⟩
  · rw [gptDiskCommit, result_onDevice here, Prog.result, run]
  · intro gpt
    rw [tables]
    cases gpt <;> exact ⟨rfl, rfl⟩
  · rw [gptDiskCommit, final_onDevice here, Prog.final, Prog.writes, run]

/-- A commit cut off after some of its writes. -/
theorem cut_gptDiskCommit {s : Store} (here : s disk.devpath = some d) (wf : d.WellFormed) (fits : Fits disk d)
    (k : ℕ) : ∃ d', Rewritten d d' ∧ d'.tables = applyPlan d.tables ((commitPlan disk).take k) ∧
      (gptDiskCommit disk).cut s k = Function.update s disk.devpath (some d') := by
  obtain ⟨rewritten, tables⟩ := foldl_place wf ((plan_commit fits).take k)
  refine ⟨_, rewritten, tables, ?_⟩
  rw [gptDiskCommit, cut_onDevice here, Prog.cut, Prog.writes, commitCopies_refines wf fits, BlockDevice.place,
    ← List.map_take, ← BlockDevice.place]

end Commit

end Cypfr.Gpt
