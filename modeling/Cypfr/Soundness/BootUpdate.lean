import Cypfr.Machine.Reachable
import Cypfr.Proofs.BootChain
import Cypfr.Proofs.BootUpdate
import Cypfr.Proofs.GptFormat

/-! # The boot update under power loss

Whatever stages are called, in whatever order and however often they are cut off between two writes,
one of the two GPT copies is usable. Repeating a stage that was cut off finishes it, except between
the two writes of UPDATE_BACKUP: there both headers are good, and the disk looks as if no update had
begun. Three stages without power loss leave the disk as it was.
-/

namespace Cypfr.Gpt

open ByteList Journal Machine

/-- A disk with two usable copies that hold the same entries. -/
structure Start (d : BlockDevice) : Prop where
  wellFormed : d.WellFormed
  primary : usable d .primaryGpt = true
  secondary : usable d .secondaryGpt = true
  sameEntries : d.tables .primaryArray = d.tables .secondaryArray

theorem start_format {blkSize pentrySize : ℕ} {pentries : Bytes} (ok : Formattable blkSize pentrySize pentries) :
    Start (format blkSize pentrySize pentries) :=
  ⟨wellFormed_format ok, usable_format ok .primaryGpt, usable_format ok .secondaryGpt,
    (array_format ok .primaryGpt).trans (array_format ok .secondaryGpt).symm⟩

/-- A system that boots from eMMC. -/
def emmc : Env := ⟨false, fun _ => none, fun _ _ => true⟩

def tzPair : Bytes := namedEntry ptnEntrySize "tz" ++ namedEntry ptnEntrySize "tzbak"

def tzDisk : BlockDevice := format 512 ptnEntrySize tzPair

theorem formattable_tzPair : Formattable 512 ptnEntrySize tzPair := by
  have length : tzPair.length = 256 := by simp [tzPair, ptnEntrySize]
  exact ⟨by decide, by decide, by decide, by rw [length]; decide, by rw [length]; decide⟩

theorem start_tzDisk : Start tzDisk := start_format formattable_tzPair

theorem switchXbl_emmc (chain : BootChain) : switchXbl emmc chain = 0 := rfl

/-- What no stage and no power loss breaks: both headers are sealed, the primary array is never written,
and a copy that lost its signature leaves the other one usable. -/
structure Sound (T : Tables) : Prop where
  primaryLength : 92 ≤ (T .primaryHeader).length
  secondaryLength : 92 ≤ (T .secondaryHeader).length
  sizes : (T .primaryArray).length = (T .secondaryArray).length
  primaryCrc : CrcOk (T .primaryHeader)
  secondaryCrc : CrcOk (T .secondaryHeader)
  primaryTable : get4 (T .primaryHeader) partitionCrcOffset = Crc32.crc32 (T .primaryArray)
  oneSigned : SigOk (T .primaryHeader) ∨
    SigOk (T .secondaryHeader) ∧ get4 (T .secondaryHeader) partitionCrcOffset = Crc32.crc32 (T .secondaryArray)

theorem Sound.usableTables {T : Tables} (sound : Sound T) :
    UsableTables T .primaryGpt ∨ UsableTables T .secondaryGpt := by
  rcases sound.oneSigned with signed | ⟨signed, table⟩
  · exact .inl ⟨sound.primaryCrc, signed, sound.primaryTable⟩
  · exact .inr ⟨sound.secondaryCrc, signed, table⟩

namespace Sound

variable {T : Tables}

theorem update_primaryHeader (sound : Sound T) {h : Bytes} (length : h.length = (T .primaryHeader).length)
    (crc : CrcOk h) (table : get4 h partitionCrcOffset = get4 (T .primaryHeader) partitionCrcOffset)
    (oneSigned : SigOk h ∨ SigOk (T .secondaryHeader) ∧
      get4 (T .secondaryHeader) partitionCrcOffset = Crc32.crc32 (T .secondaryArray)) :
    Sound (Function.update T .primaryHeader h) :=
  ⟨length ▸ sound.primaryLength, sound.secondaryLength, sound.sizes, crc, sound.secondaryCrc,
    table.trans sound.primaryTable, oneSigned⟩

theorem update_secondaryHeader (sound : Sound T) {h : Bytes} (length : h.length = (T .secondaryHeader).length)
    (crc : CrcOk h) (signed : SigOk (T .primaryHeader)) : Sound (Function.update T .secondaryHeader h) :=
  ⟨sound.primaryLength, length ▸ sound.secondaryLength, sound.sizes, sound.primaryCrc, crc, sound.primaryTable,
    .inl signed⟩

theorem update_secondaryArray (sound : Sound T) {a : Bytes} (length : a.length = (T .secondaryArray).length)
    (signed : SigOk (T .primaryHeader)) : Sound (Function.update T .secondaryArray a) :=
  ⟨sound.primaryLength, sound.secondaryLength, sound.sizes.trans length.symm, sound.primaryCrc, sound.secondaryCrc,
    sound.primaryTable, .inl signed⟩

end Sound

theorem Start.sound {d : BlockDevice} (start : Start d) : Sound d.tables := by
  have wf := start.wellFormed
  have primary := (usable_iff wf _).mp start.primary
  have secondary := (usable_iff wf _).mp start.secondary
  refine ⟨?_, ?_, wf.length_arrays, primary.crcOk, secondary.crcOk, primary.table, .inl primary.sigOk⟩
  · exact (wf.length_header .primaryGpt).symm ▸ wf.block
  · exact (wf.length_header .secondaryGpt).symm ▸ wf.block

/-- The stage that is due, as the signatures of two sealed headers tell it. -/
theorem internalStage_eq_some {p s : Bytes} (stage : BootUpdateStage) (primary : CrcOk p) (secondary : CrcOk s) :
    internalStage (headerState p) (headerState s) = some stage ↔
      match stage with
      | .updateMain => SigOk p ∧ SigOk s
      | .updateBackup => ¬ SigOk p ∧ SigOk s
      | .updateFinalize => SigOk p ∧ ¬ SigOk s := by
  rw [headerState_eq primary, headerState_eq secondary]
  by_cases first : SigOk p <;> by_cases second : SigOk s <;> cases stage <;> simp [first, second, internalStage]

/-- A stage that writes anything is the one that is due. -/
theorem prepareTables_cases (env : Env) (stage : BootUpdateStage) (T : Tables) :
    (prepareTables env stage T).2 = [] ∨
      internalStage (headerState (T .primaryHeader)) (headerState (T .secondaryHeader)) = some stage ∧
        prepareTables env stage T = planStage env T stage := by
  unfold prepareTables
  split
  · exact .inl rfl
  · next internal due =>
    split_ifs with already other
    · exact .inl rfl
    · exact .inl rfl
    · obtain rfl : stage = internal := not_not.mp other
      exact .inr ⟨due, rfl⟩

/-- Every write boundary of every stage is sound. -/
theorem sound_prepareTables {T : Tables} (sound : Sound T) (env : Env) (stage : BootUpdateStage) :
    Throughout Sound T (prepareTables env stage T).2 := by
  rcases prepareTables_cases env stage T with silent | ⟨due, plan⟩
  · rw [silent]; exact sound
  · rw [plan]
    rw [internalStage_eq_some _ sound.primaryCrc sound.secondaryCrc] at due
    cases stage with
    | updateMain =>
      obtain ⟨primarySigned, secondarySigned⟩ := due
      simp only [planStage]
      split_ifs
      · exact sound
      · exact sound
      · exact sound
      · have headed := sound.update_secondaryHeader length_retable (crcOk_retable sound.secondaryLength
          (chainArray env.isUfs .backupBoot (T .primaryArray) (get4 (T .primaryHeader) pentrySizeOffset)).2)
          primarySigned
        have tabled := headed.update_secondaryArray
          ((length_chainArray env.isUfs .backupBoot _ (get4 (T .primaryHeader) pentrySizeOffset)).trans headed.sizes)
          primarySigned
        refine ⟨sound, headed, tabled, tabled.update_primaryHeader length_corrupt
          (crcOk_corrupt sound.primaryLength) partitionCrc_corrupt (.inr ⟨?_, ?_⟩)⟩
        · exact sigOk_retable.mpr secondarySigned
        · exact partitionCrc_retable sound.secondaryLength _
    | updateBackup =>
      simp only [planStage]
      split_ifs
      · exact sound
      · have fixed := sound.update_primaryHeader length_restore (crcOk_restore sound.primaryLength)
          partitionCrc_restore (.inl (sigOk_restore sound.primaryLength))
        exact ⟨sound, fixed, fixed.update_secondaryHeader length_corrupt (crcOk_corrupt sound.secondaryLength)
          (sigOk_restore sound.primaryLength)⟩
    | updateFinalize =>
      obtain ⟨primarySigned, -⟩ := due
      simp only [planStage]
      split_ifs
      · exact sound
      · have headed := sound.update_secondaryHeader length_retable
          (crcOk_retable sound.secondaryLength (T .primaryArray)) primarySigned
        have tabled := headed.update_secondaryArray headed.sizes primarySigned
        refine ⟨sound, headed, tabled, tabled.update_secondaryHeader ?_ (crcOk_restore ?_) primarySigned⟩
        · exact length_restore.trans rfl
        · exact headed.secondaryLength

/-- One call of `prepare_partitions`, cut off after `k` writes; the system may answer differently each
time. -/
def updateStep (d : BlockDevice) (call : Env × BootUpdateStage × ℕ) : BlockDevice :=
  (preparePartitions call.1 call.2.1).cut d call.2.2

theorem cut_preparePartitions {d : BlockDevice} (wf : d.WellFormed) (env : Env) (stage : BootUpdateStage) (k : ℕ) :
    Rewritten d ((preparePartitions env stage).cut d k) ∧
      ((preparePartitions env stage).cut d k).tables =
        applyPlan d.tables ((prepareTables env stage d.tables).2.take k) := by
  have writes : (preparePartitions env stage).writes d = d.place (prepareTables env stage d.tables).2 :=
    congrArg Prod.snd (preparePartitions_refines wf env stage)
  rw [Prog.cut, writes, BlockDevice.place, ← List.map_take, ← BlockDevice.place]
  exact foldl_place wf ((plan_prepareTables wf.length_arrays).take k)

theorem sound_updateStep {d : BlockDevice} (wf : d.WellFormed) (sound : Sound d.tables)
    (call : Env × BootUpdateStage × ℕ) : (updateStep d call).WellFormed ∧ Sound (updateStep d call).tables := by
  obtain ⟨rewritten, tables⟩ := cut_preparePartitions wf call.1 call.2.1 call.2.2
  refine ⟨rewritten.wellFormed, ?_⟩
  rw [updateStep, tables]
  exact (sound_prepareTables sound call.1 call.2.1).take call.2.2

/-- At every write boundary of every sequence of interrupted and completed stages, one of the two GPT
copies is usable. -/
theorem one_copy_usable {d₀ d : BlockDevice} (start : Start d₀)
    (reach : Reachable updateStep (fun _ _ => True) d₀ d) :
    usable d .primaryGpt = true ∨ usable d .secondaryGpt = true := by
  have inv := reach.invariant (fun d => d.WellFormed ∧ Sound d.tables) ⟨start.wellFormed, start.sound⟩
    fun d call inv _ => sound_updateStep inv.1 inv.2 call
  rw [usable_iff inv.1, usable_iff inv.1]
  exact inv.2.usableTables

/-- A first stage cut off after two writes, repeated, and a second one cut off after one. -/
theorem one_copy_usable_tz :
    let d := [(emmc, BootUpdateStage.updateMain, 2), (emmc, .updateMain, 3), (emmc, .updateBackup, 1)].foldl updateStep
      tzDisk
    usable d .primaryGpt = true ∨ usable d .secondaryGpt = true := by
  intro d
  have reach : Reachable updateStep (fun _ _ => True) tzDisk d :=
    Reachable.run .start _ fun _ _ _ => trivial
  exact one_copy_usable start_tzDisk reach

/-! ## Resuming -/

theorem final_preparePartitions {d : BlockDevice} (wf : d.WellFormed) (env : Env) (stage : BootUpdateStage) :
    Rewritten d ((preparePartitions env stage).final d) ∧
      ((preparePartitions env stage).final d).tables = applyPlan d.tables (prepareTables env stage d.tables).2 := by
  have writes : (preparePartitions env stage).writes d = d.place (prepareTables env stage d.tables).2 :=
    congrArg Prod.snd (preparePartitions_refines wf env stage)
  rw [Prog.final, writes]
  exact foldl_place wf (plan_prepareTables wf.length_arrays)

/-- Calling the stage again after it was cut off behind `k` writes returns 0 and leaves the disk that the
uninterrupted call leaves. -/
def Resumes (env : Env) (stage : BootUpdateStage) (d : BlockDevice) (k : ℕ) : Prop :=
  (preparePartitions env stage).result ((preparePartitions env stage).cut d k) = 0 ∧
    (preparePartitions env stage).final ((preparePartitions env stage).cut d k) = (preparePartitions env stage).final d

theorem planStage_result {env : Env} {stage : BootUpdateStage} {T : Tables} (writes : (planStage env T stage).2 ≠ []) :
    (planStage env T stage).1 = 0 := by
  cases stage with
  | updateMain =>
    simp only [planStage] at writes ⊢
    split_ifs at writes ⊢ <;> simp_all
  | updateBackup =>
    simp only [planStage] at writes ⊢
    split_ifs at writes ⊢ <;> simp_all
  | updateFinalize =>
    simp only [planStage] at writes ⊢
    split_ifs at writes ⊢ <;> simp_all

/-- A stage is due, with the same plan, in tables that differ only in the secondary copy, as long as the
secondary header is signed as before and takes any new table in the same way. -/
theorem prepareTables_again {env : Env} {stage : BootUpdateStage} {T T' : Tables} (sound : Sound T) (sound' : Sound T')
    (due : internalStage (headerState (T .primaryHeader)) (headerState (T .secondaryHeader)) = some stage)
    (other : stage ≠ .updateBackup) (primary : T' .primaryHeader = T .primaryHeader)
    (array : T' .primaryArray = T .primaryArray)
    (signed : SigOk (T' .secondaryHeader) ↔ SigOk (T .secondaryHeader))
    (table : ∀ a, retableHeader (T' .secondaryHeader) a = retableHeader (T .secondaryHeader) a) :
    prepareTables env stage T' = planStage env T stage := by
  have again : internalStage (headerState (T' .primaryHeader)) (headerState (T' .secondaryHeader)) = some stage := by
    rw [internalStage_eq_some _ sound.primaryCrc sound.secondaryCrc] at due
    rw [internalStage_eq_some _ sound'.primaryCrc sound'.secondaryCrc]
    cases stage <;> simpa [primary, signed] using due
  have late : stage.toInt ≠ stage.toInt - 1 := by omega
  rw [prepareTables, again]
  simp only [late, if_false, ne_eq, not_true_eq_false]
  cases stage with
  | updateMain => simp only [planStage, primary, array, table]
  | updateBackup => exact absurd rfl other
  | updateFinalize => simp only [planStage, primary, array, table]

theorem prepareTables_of_due {env : Env} {stage : BootUpdateStage} {T : Tables}
    (due : internalStage (headerState (T .primaryHeader)) (headerState (T .secondaryHeader)) = some stage) :
    prepareTables env stage T = planStage env T stage := by
  have late : stage.toInt ≠ stage.toInt - 1 := by omega
  rw [prepareTables, due]
  simp only [late, if_false, ne_eq, not_true_eq_false]

/-- Until its last write, a stage other than UPDATE_BACKUP has touched the secondary copy only, and has
left the secondary header as it was or with another table. -/
theorem applyPlan_cut {env : Env} {stage : BootUpdateStage} {T : Tables} (other : stage ≠ .updateBackup) {k : ℕ}
    (inside : k < (planStage env T stage).2.length) :
    let T' := applyPlan T ((planStage env T stage).2.take k)
    T' .primaryHeader = T .primaryHeader ∧ T' .primaryArray = T .primaryArray ∧
      (T' .secondaryHeader = T .secondaryHeader ∨ ∃ a, T' .secondaryHeader = retableHeader (T .secondaryHeader) a) := by
  cases stage with
  | updateMain =>
    simp only [planStage] at inside ⊢
    split_ifs at inside ⊢ <;> simp at inside
    interval_cases k
    · exact ⟨rfl, rfl, .inl rfl⟩
    · exact ⟨rfl, rfl, .inr ⟨_, rfl⟩⟩
    · exact ⟨rfl, rfl, .inr ⟨_, rfl⟩⟩
  | updateBackup => exact absurd rfl other
  | updateFinalize =>
    simp only [planStage] at inside ⊢
    split_ifs at inside ⊢ <;> simp at inside
    interval_cases k
    · exact ⟨rfl, rfl, .inl rfl⟩
    · exact ⟨rfl, rfl, .inr ⟨_, rfl⟩⟩
    · exact ⟨rfl, rfl, .inr ⟨_, rfl⟩⟩

/-- The plan of a stage cut off inside is the plan still to be carried out. -/
theorem prepareTables_cut {env : Env} {stage : BootUpdateStage} {T : Tables} (sound : Sound T)
    (due : internalStage (headerState (T .primaryHeader)) (headerState (T .secondaryHeader)) = some stage) {k : ℕ}
    (inside : k < (planStage env T stage).2.length) (safe : ¬ (stage = .updateBackup ∧ k = 1)) :
    prepareTables env stage (applyPlan T ((planStage env T stage).2.take k)) = planStage env T stage := by
  by_cases backup : stage = .updateBackup
  · have first : k = 0 := by
      subst backup
      simp only [planStage] at inside
      split_ifs at inside <;> simp at inside
      by_contra later
      exact safe ⟨rfl, by omega⟩
    rw [first]
    exact prepareTables_of_due due
  · have sound' := (sound_prepareTables sound env stage).take k
    rw [prepareTables_of_due due] at sound'
    obtain ⟨primary, array, secondary⟩ := applyPlan_cut backup inside
    apply prepareTables_again sound sound' due backup primary array
    · rcases secondary with same | ⟨a, same⟩
      · rw [same]
      · rw [same, sigOk_retable]
    · intro b
      rcases secondary with same | ⟨a, same⟩
      · rw [same]
      · rw [same, retable_retable]

/-- Between the two writes of UPDATE_BACKUP both headers are good, so the stage is refused. -/
theorem prepareTables_backup_refused {env : Env} {T : Tables} (sound : Sound T)
    (due : internalStage (headerState (T .primaryHeader)) (headerState (T .secondaryHeader)) = some .updateBackup)
    (inside : 1 < (planStage env T .updateBackup).2.length) :
    (prepareTables env .updateBackup (applyPlan T ((planStage env T .updateBackup).2.take 1))).1 = -1 := by
  rw [internalStage_eq_some _ sound.primaryCrc sound.secondaryCrc] at due
  simp only [planStage] at inside ⊢
  split_ifs at inside ⊢ <;> simp at inside
  have main : internalStage (headerState (restoreHeader (T .primaryHeader))) (headerState (T .secondaryHeader)) =
      some .updateMain :=
    (internalStage_eq_some _ (crcOk_restore sound.primaryLength) sound.secondaryCrc).mpr
      ⟨sigOk_restore sound.primaryLength, due.2⟩
  have tables : (applyPlan T ([(.primaryHeader, restoreHeader (T .primaryHeader)),
      (.secondaryHeader, corruptHeader (T .secondaryHeader))].take 1)) =
      Function.update T .primaryHeader (restoreHeader (T .primaryHeader)) := rfl
  simp only [tables, prepareTables, Function.update_self, ne_eq, reduceCtorEq, not_false_eq_true,
    Function.update_of_ne, main]
  rfl

/-- On a sound disk, a stage that was cut off inside can be repeated unless it was cut off between the
two writes of UPDATE_BACKUP. -/
theorem resumes_iff_of_sound {d : BlockDevice} (wf : d.WellFormed) (sound : Sound d.tables) {env : Env}
    {stage : BootUpdateStage} {k : ℕ} (inside : k < ((preparePartitions env stage).writes d).length) :
    Resumes env stage d k ↔ ¬ (stage = .updateBackup ∧ k = 1) := by
  have writes : (preparePartitions env stage).writes d = d.place (prepareTables env stage d.tables).2 :=
    congrArg Prod.snd (preparePartitions_refines wf env stage)
  rw [writes, BlockDevice.place, List.length_map] at inside
  rcases prepareTables_cases env stage d.tables with silent | ⟨due, plan⟩
  · rw [silent] at inside; exact absurd inside (Nat.not_lt_zero k)
  · rw [plan] at inside
    obtain ⟨cut, cutTables⟩ := cut_preparePartitions wf env stage k
    rw [plan] at cutTables
    have result := congrArg Prod.fst (preparePartitions_refines cut.wellFormed env stage)
    simp only [cutTables] at result
    constructor
    · rintro ⟨zero, -⟩ ⟨rfl, rfl⟩
      rw [Prog.result, result, prepareTables_backup_refused sound due inside] at zero
      cases zero
    · intro safe
      have again := prepareTables_cut sound due inside safe
      obtain ⟨resumed, resumedTables⟩ := final_preparePartitions cut.wellFormed env stage
      obtain ⟨whole, wholeTables⟩ := final_preparePartitions wf env stage
      refine ⟨?_, (cut.trans resumed).eq_of_tables whole ?_⟩
      · rw [Prog.result, result, again]
        exact planStage_result fun empty => by rw [empty] at inside; exact Nat.not_lt_zero k inside
      · rw [resumedTables, cutTables, again, applyPlan_redo, wholeTables, plan]

/-- The disk after the first `n` stages of an update. -/
def afterStages (env : Env) (d : BlockDevice) (n : ℕ) : BlockDevice :=
  ([.updateMain, .updateBackup, .updateFinalize].take n).foldl
    (fun d stage => (preparePartitions env stage).final d) d

theorem afterStages_one (env : Env) (d : BlockDevice) :
    afterStages env d 1 = (preparePartitions env .updateMain).final d := rfl

theorem sound_afterStages {d : BlockDevice} (start : Start d) (env : Env) (n : ℕ) :
    (afterStages env d n).WellFormed ∧ Sound (afterStages env d n).tables := by
  unfold afterStages
  have inv : d.WellFormed ∧ Sound d.tables := ⟨start.wellFormed, start.sound⟩
  clear start
  induction [BootUpdateStage.updateMain, .updateBackup, .updateFinalize].take n generalizing d with
  | nil => exact inv
  | cons stage rest ih =>
    have next := sound_updateStep inv.1 inv.2 (env, stage, ((preparePartitions env stage).writes d).length)
    rw [updateStep, Prog.cut_of_length_le _ _ le_rfl] at next
    exact ih next

/-! ## The stages one after the other -/

/-- The array has a partition with this name and its backup twin. -/
def HasTwin (name : String) (pentries : Bytes) : Prop :=
  ∃ i j, i < entryCount pentries ∧ j < entryCount pentries ∧ entryName (entryAt pentries i) = ascii name ∧
    entryName (entryAt pentries j) = ascii name ++ ascii "bak"

theorem HasTwin.firstTwo_ne_none {name : String} {pentries : Bytes} (twin : HasTwin name pentries) :
    firstTwo name pentries ≠ none := by
  obtain ⟨i, j, left, right, nameI, nameJ⟩ := twin
  refine Gpt.firstTwo_ne_none left right ?_ (.inl nameI) (.inr nameJ)
  rintro rfl
  rw [nameI] at nameJ
  simpa [ascii] using congrArg List.length nameJ

section Cycle

variable {T : Tables} {env : Env}

/-- The tables after UPDATE_MAIN with a swapped array. -/
def mainTables (T : Tables) (swapped : Bytes) : Tables
  | .primaryHeader => corruptHeader (T .primaryHeader)
  | .primaryArray => T .primaryArray
  | .secondaryHeader => retableHeader (T .secondaryHeader) swapped
  | .secondaryArray => swapped

/-- The tables after UPDATE_BACKUP. -/
def backupTables (T : Tables) (swapped : Bytes) : Tables
  | .primaryHeader => T .primaryHeader
  | .primaryArray => T .primaryArray
  | .secondaryHeader => corruptHeader (retableHeader (T .secondaryHeader) swapped)
  | .secondaryArray => swapped

theorem main_step (sound : Sound T) (primary : UsableTables T .primaryGpt) (secondary : UsableTables T .secondaryGpt)
    (switched : switchXbl env .backupBoot = 0)
    (found : (gptBootChainSwap env.isUfs (T .primaryArray) (get4 (T .primaryHeader) pentrySizeOffset)).1 = false) :
    (prepareTables env .updateMain T).1 = 0 ∧ (prepareTables env .updateMain T).2.length = 3 ∧
      applyPlan T (prepareTables env .updateMain T).2 = mainTables T
        (gptBootChainSwap env.isUfs (T .primaryArray) (get4 (T .primaryHeader) pentrySizeOffset)).2 := by
  have due := (internalStage_eq_some .updateMain sound.primaryCrc sound.secondaryCrc).mpr
    ⟨primary.sigOk, secondary.sigOk⟩
  have table := sound.primaryTable
  rw [prepareTables_of_due due]
  simp only [planStage, chainArray, switched, ne_eq, not_true_eq_false, if_false, table, found, Bool.false_eq_true]
  refine ⟨trivial, rfl, ?_⟩
  funext r
  cases r <;> rfl

theorem backup_step (sound : Sound T) (primary : UsableTables T .primaryGpt) (secondary : UsableTables T .secondaryGpt)
    (switched : switchXbl env .normalBoot = 0) (swapped : Bytes) :
    (prepareTables env .updateBackup (mainTables T swapped)).1 = 0 ∧
      (prepareTables env .updateBackup (mainTables T swapped)).2.length = 2 ∧
      applyPlan (mainTables T swapped) (prepareTables env .updateBackup (mainTables T swapped)).2 =
        backupTables T swapped := by
  have due : internalStage (headerState (mainTables T swapped .primaryHeader))
      (headerState (mainTables T swapped .secondaryHeader)) = some .updateBackup :=
    (internalStage_eq_some _ (crcOk_corrupt sound.primaryLength) (crcOk_retable sound.secondaryLength swapped)).mpr
      ⟨not_sigOk_corrupt sound.primaryLength, sigOk_retable.mpr secondary.sigOk⟩
  have restored : restoreHeader (corruptHeader (T .primaryHeader)) = T .primaryHeader :=
    restore_corrupt sound.primaryLength primary.crcOk primary.sigOk
  rw [prepareTables_of_due due]
  simp only [planStage, switched, ne_eq, not_true_eq_false, if_false, mainTables, restored]
  refine ⟨trivial, rfl, ?_⟩
  funext r
  cases r <;> rfl

theorem finalize_step (env : Env) (sound : Sound T) (primary : UsableTables T .primaryGpt)
    (secondary : UsableTables T .secondaryGpt) (same : T .primaryArray = T .secondaryArray) (swapped : Bytes) :
    (prepareTables env .updateFinalize (backupTables T swapped)).1 = 0 ∧
      (prepareTables env .updateFinalize (backupTables T swapped)).2.length = 3 ∧
      applyPlan (backupTables T swapped) (prepareTables env .updateFinalize (backupTables T swapped)).2 = T := by
  have headed : 92 ≤ (retableHeader (T .secondaryHeader) swapped).length := by
    rw [length_retable]; exact sound.secondaryLength
  have due : internalStage (headerState (backupTables T swapped .primaryHeader))
      (headerState (backupTables T swapped .secondaryHeader)) = some .updateFinalize :=
    (internalStage_eq_some _ primary.crcOk (crcOk_corrupt headed)).mpr ⟨primary.sigOk, not_sigOk_corrupt headed⟩
  have restored := restore_retable_corrupt_retable sound.secondaryLength secondary.crcOk secondary.sigOk
    (T .primaryArray) (same ▸ secondary.table) swapped
  have table := sound.primaryTable
  rw [prepareTables_of_due due]
  simp only [planStage, ne_eq, backupTables, table, not_true_eq_false, if_false, restored]
  refine ⟨trivial, rfl, ?_⟩
  funext r
  cases r with
  | secondaryArray => exact same
  | _ => rfl

end Cycle

theorem run_preparePartitions {d : BlockDevice} (env : Env) (stage : BootUpdateStage) (wf : d.WellFormed) {r : ℤ}
    {n : ℕ} {T : Tables} (step : (prepareTables env stage d.tables).1 = r ∧
      (prepareTables env stage d.tables).2.length = n ∧
      applyPlan d.tables (prepareTables env stage d.tables).2 = T) :
    (preparePartitions env stage).result d = r ∧ ((preparePartitions env stage).writes d).length = n ∧
      Rewritten d ((preparePartitions env stage).final d) ∧ ((preparePartitions env stage).final d).tables = T := by
  obtain ⟨rewritten, tables⟩ := final_preparePartitions wf env stage
  obtain ⟨result, length, applied⟩ := step
  refine ⟨?_, ?_, rewritten, tables.trans applied⟩
  · rw [← result]
    exact congrArg Prod.fst (preparePartitions_refines wf env stage)
  · rw [Prog.writes, preparePartitions_refines wf, BlockDevice.place, List.length_map, length]

/-- The swap finds something on a disk with a twin of a name its kind of device swaps. -/
theorem found_of_twin {d : BlockDevice} (wf : d.WellFormed) {isUfs : Bool}
    (entrySize : get4 d.primaryHeader pentrySizeOffset = ptnEntrySize)
    (twin : ∃ name ∈ swapNames isUfs, HasTwin name (d.tables .primaryArray)) :
    (gptBootChainSwap isUfs (d.tables .primaryArray) (get4 (d.tables .primaryHeader) pentrySizeOffset)).1 = false := by
  rw [BlockDevice.tables_primaryHeader, entrySize, Bool.eq_false_iff, ne_eq,
    (gptBootChainSwap_spec isUfs (wf.whole_array entrySize)).2]
  obtain ⟨name, listed, here⟩ := twin
  exact fun none => here.firstTwo_ne_none (none name listed)

/-- A disk whose swap finds something goes through UPDATE_MAIN with three writes and through
UPDATE_BACKUP with two. -/
theorem run_main_backup {d : BlockDevice} (env : Env) (start : Start d)
    (found : (gptBootChainSwap env.isUfs (d.tables .primaryArray)
      (get4 (d.tables .primaryHeader) pentrySizeOffset)).1 = false)
    (switched : ∀ chain, switchXbl env chain = 0) :
    let swapped := (gptBootChainSwap env.isUfs (d.tables .primaryArray)
      (get4 (d.tables .primaryHeader) pentrySizeOffset)).2
    ((preparePartitions env .updateMain).result d = 0 ∧ ((preparePartitions env .updateMain).writes d).length = 3 ∧
      Rewritten d (afterStages env d 1) ∧ (afterStages env d 1).tables = mainTables d.tables swapped) ∧
    ((preparePartitions env .updateBackup).result (afterStages env d 1) = 0 ∧
      ((preparePartitions env .updateBackup).writes (afterStages env d 1)).length = 2 ∧
      Rewritten (afterStages env d 1) (afterStages env d 2) ∧
      (afterStages env d 2).tables = backupTables d.tables swapped) := by
  have wf := start.wellFormed
  have primary := (usable_iff wf _).mp start.primary
  have secondary := (usable_iff wf _).mp start.secondary
  have main := run_preparePartitions env _ wf (main_step start.sound primary secondary (switched .backupBoot) found)
  refine ⟨main, ?_⟩
  obtain ⟨-, -, rewritten, tables⟩ := main
  exact run_preparePartitions env _ rewritten.wellFormed
    (tables ▸ backup_step start.sound primary secondary (switched .normalBoot) _)

theorem entrySize_format {blkSize pentrySize : ℕ} {pentries : Bytes} (ok : Formattable blkSize pentrySize pentries) :
    get4 (format blkSize pentrySize pentries).primaryHeader pentrySizeOffset = pentrySize := by
  rw [primaryHeader_format]
  exact pentrySize_formatHeader ok.block (ok.entry.trans_lt ok.small)

theorem hasTwin_tzPair : HasTwin "tz" tzPair := ⟨0, 1, by decide +kernel⟩

theorem found_tzPair : (gptBootChainSwap emmc.isUfs (tzDisk.tables .primaryArray)
    (get4 (tzDisk.tables .primaryHeader) pentrySizeOffset)).1 = false :=
  found_of_twin (wellFormed_format formattable_tzPair) (entrySize_format formattable_tzPair)
    ⟨"tz", by decide, (array_format formattable_tzPair .primaryGpt).symm ▸ hasTwin_tzPair⟩

/-! ## The results -/

/-- Resuming an update by repeating the stage that was cut off works exactly when that was not
UPDATE_BACKUP between its two writes. -/
theorem resumes_iff {d : BlockDevice} (start : Start d) (env : Env) (n : ℕ) (stage : BootUpdateStage) {k : ℕ}
    (inside : k < ((preparePartitions env stage).writes (afterStages env d n)).length) :
    Resumes env stage (afterStages env d n) k ↔ ¬ (stage = .updateBackup ∧ k = 1) := by
  obtain ⟨wf, sound⟩ := sound_afterStages start env n
  exact resumes_iff_of_sound wf sound inside

theorem resumes_main_tz : Resumes emmc .updateMain (afterStages emmc tzDisk 0) 2 := by
  obtain ⟨⟨-, writes, -⟩, -⟩ := run_main_backup emmc start_tzDisk found_tzPair switchXbl_emmc
  have inside : 2 < ((preparePartitions emmc .updateMain).writes
      (afterStages emmc tzDisk 0)).length := by
    rw [show afterStages emmc tzDisk 0 = tzDisk from rfl, writes]
    decide
  exact (resumes_iff start_tzDisk emmc 0 .updateMain inside).mpr (by decide)

/-- UPDATE_BACKUP cut off between its writes cannot be resumed. -/
theorem backup_not_resumed_tz :
    Start tzDisk ∧ HasTwin "tz" (tzDisk.tables .primaryArray) ∧
      1 < ((preparePartitions emmc .updateBackup).writes (afterStages emmc tzDisk 1)).length ∧
      ¬ Resumes emmc .updateBackup (afterStages emmc tzDisk 1) 1 := by
  obtain ⟨-, -, writes, -⟩ := run_main_backup emmc start_tzDisk found_tzPair switchXbl_emmc
  have inside : 1 < ((preparePartitions emmc .updateBackup).writes (afterStages emmc tzDisk 1)).length := by
    rw [writes]; decide
  obtain ⟨wf, sound⟩ := sound_afterStages start_tzDisk emmc 1
  refine ⟨start_tzDisk, (array_format formattable_tzPair .primaryGpt).symm ▸ hasTwin_tzPair, inside, ?_⟩
  rw [resumes_iff_of_sound wf sound inside]
  exact fun safe => safe ⟨rfl, rfl⟩

/-- On a disk with a twin of a name its kind of device swaps, and with the boot LUN switched where there
is one, the three stages return 0 and leave the disk as it was; after the first only the secondary copy
is usable, with the first two entries of each name exchanged. -/
theorem update_cycle {d : BlockDevice} (start : Start d) {env : Env}
    (entrySize : get4 d.primaryHeader pentrySizeOffset = ptnEntrySize)
    (twin : ∃ name ∈ swapNames env.isUfs, HasTwin name (d.tables .primaryArray))
    (switched : ∀ chain, switchXbl env chain = 0) :
    (preparePartitions env .updateMain).result d = 0 ∧
      (preparePartitions env .updateBackup).result (afterStages env d 1) = 0 ∧
      (preparePartitions env .updateFinalize).result (afterStages env d 2) = 0 ∧
      afterStages env d 3 = d ∧
      usable (afterStages env d 1) .primaryGpt = false ∧ usable (afterStages env d 1) .secondaryGpt = true ∧
      ((afterStages env d 1).tables .secondaryArray).length = (d.tables .secondaryArray).length ∧
      ∀ i, entryAt ((afterStages env d 1).tables .secondaryArray) i =
        entryAt (d.tables .secondaryArray) (partner (swapNames env.isUfs) (d.tables .secondaryArray) i) := by
  have wf := start.wellFormed
  have sound := start.sound
  have primary := (usable_iff wf _).mp start.primary
  have secondary := (usable_iff wf _).mp start.secondary
  obtain ⟨⟨main, -, first, tables₁⟩, backup, -, second, tables₂⟩ :=
    run_main_backup env start (found_of_twin wf entrySize twin) switched
  set swapped := (gptBootChainSwap env.isUfs (d.tables .primaryArray)
    (get4 (d.tables .primaryHeader) pentrySizeOffset)).2 with swappedEq
  obtain ⟨finalize, -, third, tables₃⟩ := run_preparePartitions env _ second.wellFormed
    (tables₂ ▸ finalize_step env sound primary secondary start.sameEntries swapped)
  have array : (afterStages env d 1).tables .secondaryArray = swapped := congrFun tables₁ .secondaryArray
  refine ⟨main, backup, finalize, ?_, ?_, ?_, ?_, ?_⟩
  · exact ((first.trans second).trans third).eq_of_tables (.refl wf) tables₃
  · rw [Bool.eq_false_iff, ne_eq, usable_iff first.wellFormed, tables₁]
    exact fun usable => not_sigOk_corrupt sound.primaryLength usable.sigOk
  · rw [usable_iff first.wellFormed, tables₁]
    exact ⟨crcOk_retable sound.secondaryLength swapped, sigOk_retable.mpr secondary.sigOk,
      partitionCrc_retable sound.secondaryLength swapped⟩
  · rw [array, ← start.sameEntries]
    exact length_gptBootChainSwap ..
  · intro i
    rw [array, ← start.sameEntries, swappedEq, BlockDevice.tables_primaryHeader, entrySize]
    exact (gptBootChainSwap_spec env.isUfs (wf.whole_array entrySize)).1 i

theorem update_cycle_tz :
    (preparePartitions emmc .updateMain).result tzDisk = 0 ∧
      afterStages emmc tzDisk 3 = tzDisk := by
  have cycle := update_cycle start_tzDisk (entrySize_format formattable_tzPair)
    ⟨"tz", by decide, (array_format formattable_tzPair .primaryGpt).symm ▸ hasTwin_tzPair⟩ switchXbl_emmc
  exact ⟨cycle.1, cycle.2.2.2.1⟩

/-- A system that boots from UFS, with links to the XBL partitions. -/
def ufs : Env where
  isUfs := true
  byName name := if name = "xbl" then some "/dev/block/sdb1" else if name = "xblbak" then some "/dev/block/sdb2" else none
  setBootLun _ _ := true

def xblPair : Bytes := namedEntry ptnEntrySize "xbl" ++ namedEntry ptnEntrySize "xblbak"

def xblDisk : BlockDevice := format 512 ptnEntrySize xblPair

theorem formattable_xblPair : Formattable 512 ptnEntrySize xblPair := by
  have length : xblPair.length = 256 := by simp [xblPair, ptnEntrySize]
  exact ⟨by decide, by decide, by decide, by rw [length]; decide, by rw [length]; decide⟩

theorem hasTwin_xblPair : HasTwin "xbl" xblPair := ⟨0, 1, by decide +kernel⟩

/-- On UFS the XBL pair is left to the boot LUN, so with no other pair UPDATE_MAIN writes nothing and
UPDATE_BACKUP is refused. -/
theorem xbl_only_refused :
    Start xblDisk ∧ HasTwin "xbl" (xblDisk.tables .primaryArray) ∧
      (preparePartitions ufs .updateMain).result xblDisk = 0 ∧
      (preparePartitions ufs .updateBackup).result (afterStages ufs xblDisk 1) = -1 := by
  have start : Start xblDisk := start_format formattable_xblPair
  have array : xblDisk.tables .primaryArray = xblPair := array_format formattable_xblPair .primaryGpt
  have entrySize : get4 (xblDisk.tables .primaryHeader) pentrySizeOffset = ptnEntrySize :=
    entrySize_format formattable_xblPair
  have due := (internalStage_eq_some .updateMain start.sound.primaryCrc start.sound.secondaryCrc).mpr
    ⟨((usable_iff start.wellFormed _).mp start.primary).sigOk,
      ((usable_iff start.wellFormed _).mp start.secondary).sigOk⟩
  have switched : switchXbl ufs .backupBoot = 0 := by decide
  have missing : (gptBootChainSwap ufs.isUfs xblPair ptnEntrySize).1 = true := by decide +kernel
  have main : prepareTables ufs .updateMain xblDisk.tables = (0, []) := by
    rw [prepareTables_of_due due]
    simp only [planStage, switched, start.sound.primaryTable, chainArray, array, entrySize, missing, ne_eq,
      not_true_eq_false, if_false, if_true]
  obtain ⟨result, -, rewritten, tables⟩ := run_preparePartitions ufs .updateMain start.wellFormed
    (r := 0) (n := 0) (T := xblDisk.tables) (by rw [main]; exact ⟨rfl, rfl, rfl⟩)
  refine ⟨start, ?_, result, ?_⟩
  · rw [array]; exact hasTwin_xblPair
  · rw [afterStages_one, Prog.result,
      preparePartitions_refines rewritten.wellFormed, tables, prepareTables, due]
    rfl

def longTz : Bytes := write (namedEntry 256 "tz") 200 [1]

def longTzbak : Bytes := namedEntry 256 "tzbak"

def longDisk : BlockDevice := format 512 256 (longTz ++ longTzbak)

theorem formattable_longPair : Formattable 512 256 (longTz ++ longTzbak) := by
  have length : (longTz ++ longTzbak).length = 512 := by simp [longTz, longTzbak]
  exact ⟨by decide, by decide, by decide, by rw [length]; decide, by rw [length]⟩

/-- Of entries of 256 bytes the swap exchanges the first halves only. -/
theorem long_entries_torn :
    Start longDisk ∧ entryName longTz = ascii "tz" ∧ entryName longTzbak = ascii "tz" ++ ascii "bak" ∧
      (afterStages emmc longDisk 1).tables .secondaryArray ≠ longTzbak ++ longTz := by
  have start : Start longDisk := start_format formattable_longPair
  have array : longDisk.tables .primaryArray = longTz ++ longTzbak := array_format formattable_longPair .primaryGpt
  have entrySize : get4 (longDisk.tables .primaryHeader) pentrySizeOffset = 256 := entrySize_format formattable_longPair
  obtain ⟨⟨-, -, -, tables⟩, -⟩ := run_main_backup emmc start
    (by rw [array, entrySize]; decide +kernel) switchXbl_emmc
  refine ⟨start, by decide, by decide, ?_⟩
  rw [tables]
  simp only [mainTables, array, entrySize]
  decide +kernel

/-- The two ways in which an update of a disk with a twin goes another way. -/
theorem update_cycle_exceptions :
    (Start xblDisk ∧ HasTwin "xbl" (xblDisk.tables .primaryArray) ∧
      (preparePartitions ufs .updateMain).result xblDisk = 0 ∧
      (preparePartitions ufs .updateBackup).result (afterStages ufs xblDisk 1) = -1) ∧
    (Start longDisk ∧ entryName longTz = ascii "tz" ∧ entryName longTzbak = ascii "tz" ++ ascii "bak" ∧
      (afterStages emmc longDisk 1).tables .secondaryArray ≠ longTzbak ++ longTz) :=
  ⟨xbl_only_refused, long_entries_torn⟩

end Cypfr.Gpt
