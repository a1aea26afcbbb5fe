import Cypfr.Proofs.GptTables

/-! # The boot update over the four regions

On a well-formed disk `prepare_partitions` is a plan of region writes that depends only on the
contents of the regions. The primary array is never written.
-/

namespace Cypfr.Gpt

open ByteList Journal

/-- The writes of a stage that is due, and the value it returns. -/
def planStage (env : Env) (T : Tables) : BootUpdateStage → ℤ × List (Region × Bytes)
  | .updateMain =>
    let swapped := chainArray env.isUfs .backupBoot (T .primaryArray) (get4 (T .primaryHeader) pentrySizeOffset)
    if switchXbl env .backupBoot ≠ 0 then (switchXbl env .backupBoot, [])
    else if get4 (T .primaryHeader) partitionCrcOffset ≠ Crc32.crc32 (T .primaryArray) then (-1, [])
    else if swapped.1 then (0, [])
    else (0, [(.secondaryHeader, retableHeader (T .secondaryHeader) swapped.2), (.secondaryArray, swapped.2),
      (.primaryHeader, corruptHeader (T .primaryHeader))])
  | .updateBackup =>
    if switchXbl env .normalBoot ≠ 0 then (switchXbl env .normalBoot, [])
    else (0, [(.primaryHeader, restoreHeader (T .primaryHeader)),
      (.secondaryHeader, corruptHeader (T .secondaryHeader))])
  | .updateFinalize =>
    if get4 (T .primaryHeader) partitionCrcOffset ≠ Crc32.crc32 (T .primaryArray) then (-1, [])
    else (0, [(.secondaryHeader, retableHeader (T .secondaryHeader) (T .primaryArray)),
      (.secondaryArray, T .primaryArray),
      (.secondaryHeader, restoreHeader (retableHeader (T .secondaryHeader) (T .primaryArray)))])

/-- `prepare_partitions` over the contents of the regions. -/
def prepareTables (env : Env) (stage : BootUpdateStage) (T : Tables) : ℤ × List (Region × Bytes) :=
  match internalStage (headerState (T .primaryHeader)) (headerState (T .secondaryHeader)) with
  | none => (-1, [])
  | some internal =>
    if stage.toInt = internal.toInt - 1 then (0, [])
    else if stage ≠ internal then (-1, [])
    else planStage env T stage

@[simp] theorem length_swapEntries (pentries : Bytes) (entry bakEntry : ℕ) :
    (swapEntries pentries entry bakEntry).length = pentries.length := by simp [swapEntries]

theorem length_swapRound (isUfs : Bool) (pentrySize : ℕ) (found : Bool × Bytes) (name : String) :
    (swapRound isUfs pentrySize found name).2.length = found.2.length := by
  unfold swapRound
  split_ifs
  · rfl
  · split
    · rfl
    · split <;> simp

theorem length_gptBootChainSwap (isUfs : Bool) (pentries : Bytes) (pentrySize : ℕ) :
    (gptBootChainSwap isUfs pentries pentrySize).2.length = pentries.length := by
  unfold gptBootChainSwap
  generalize true = notFound
  induction ptnSwapList generalizing pentries notFound with
  | nil => rfl
  | cons name rest ih =>
    rw [List.foldl_cons]
    exact (ih _ _).trans (length_swapRound isUfs pentrySize (notFound, pentries) name)

theorem length_chainArray (isUfs : Bool) (boot : BootChain) (pentries : Bytes) (pentrySize : ℕ) :
    (chainArray isUfs boot pentries pentrySize).2.length = pentries.length := by
  cases boot with
  | normalBoot => rfl
  | backupBoot => exact length_gptBootChainSwap isUfs pentries pentrySize

/-- Every plan fits tables whose arrays have one size. -/
theorem plan_planStage (env : Env) {T : Tables} (sizes : (T .primaryArray).length = (T .secondaryArray).length)
    (stage : BootUpdateStage) : Plan T (planStage env T stage).2 := by
  cases stage with
  | updateMain =>
    simp only [planStage]
    split_ifs
    · trivial
    · trivial
    · trivial
    · refine ⟨fitting_header .secondaryGpt (sameGeometry_retable _ _),
        fitting_array .secondaryGpt ?_, fitting_header .primaryGpt (sameGeometry_corrupt _), trivial⟩
      rw [length_chainArray, sizes]
      rfl
  | updateBackup =>
    simp only [planStage]
    split_ifs
    · trivial
    · exact ⟨fitting_header .primaryGpt (sameGeometry_restore _),
        fitting_header .secondaryGpt (sameGeometry_corrupt _), trivial⟩
  | updateFinalize =>
    simp only [planStage]
    split_ifs
    · trivial
    · exact ⟨fitting_header .secondaryGpt (sameGeometry_retable _ _),
        fitting_array .secondaryGpt sizes,
        fitting_header .secondaryGpt (sameGeometry_restore _), trivial⟩

theorem plan_prepareTables {env : Env} {stage : BootUpdateStage} {T : Tables}
    (sizes : (T .primaryArray).length = (T .secondaryArray).length) : Plan T (prepareTables env stage T).2 := by
  unfold prepareTables
  split
  · trivial
  · split_ifs
    · trivial
    · trivial
    · exact plan_planStage env sizes stage

section Refinement

variable {d : BlockDevice}

theorem gptSetState_refines (wf : d.WellFormed) (gpt : GptInstance) (ok : Bool) :
    gptSetState gpt ok d = (0, d.place [(gpt.header,
      if ok then restoreHeader (d.tables gpt.header) else corruptHeader (d.tables gpt.header))]) := by
  rw [gptSetState, Prog.get_bind_apply, wf.headerOffset gpt]
  simp only [read_header, Prog.emit_bind_apply, Prog.pure_apply]
  cases ok <;> rfl

/-- The secondary copy is rewritten from the primary array, in two writes. -/
theorem gpt2SetBootChain_refines (wf : d.WellFormed) (isUfs : Bool) (boot : BootChain) :
    gpt2SetBootChain isUfs boot d =
      let swapped := chainArray isUfs boot (d.tables .primaryArray) (get4 (d.tables .primaryHeader) pentrySizeOffset)
      if get4 (d.tables .primaryHeader) partitionCrcOffset ≠ Crc32.crc32 (d.tables .primaryArray) then (-1, [])
      else if swapped.1 then (1, [])
      else (0, d.place [(.secondaryHeader, retableHeader (d.tables .secondaryHeader) swapped.2),
        (.secondaryArray, swapped.2)]) := by
  rw [gpt2SetBootChain, Prog.get_bind_apply, wf.headerOffset .secondaryGpt]
  have primary : d.read d.blkSize d.blkSize = d.tables .primaryHeader := rfl
  have array : d.read (pentriesStart d.blkSize (d.tables .primaryHeader)) (pentriesSize (d.tables .primaryHeader)) =
      d.tables .primaryArray := rfl
  simp only [read_header, primary, array]
  split_ifs <;> rfl

theorem runStage_refines (wf : d.WellFormed) (env : Env) (stage : BootUpdateStage) :
    runStage env stage d = ((planStage env d.tables stage).1, d.place (planStage env d.tables stage).2) := by
  have plan := plan_planStage env wf.length_arrays stage
  cases stage with
  | updateMain =>
    have chain := gpt2SetBootChain_refines wf env.isUfs .backupBoot
    simp only [runStage, planStage] at plan chain ⊢
    by_cases switched : switchXbl env .backupBoot ≠ 0
    · rw [if_pos switched, if_pos switched]; rfl
    · rw [if_neg switched] at plan ⊢
      rw [if_neg switched]
      by_cases crc : get4 (d.tables .primaryHeader) partitionCrcOffset ≠ Crc32.crc32 (d.tables .primaryArray)
      · rw [if_pos crc] at chain ⊢
        rw [Prog.bind_apply, chain]
        rfl
      rw [if_neg crc] at plan chain ⊢
      generalize chainArray env.isUfs .backupBoot (d.tables .primaryArray)
        (get4 (d.tables .primaryHeader) pentrySizeOffset) = swapped at plan chain ⊢
      obtain ⟨missing, array⟩ := swapped
      cases missing with
      | true =>
        simp only [if_true] at chain ⊢
        rw [Prog.bind_apply, chain]
        rfl
      | false =>
        simp only [Bool.false_eq_true, if_false] at plan chain ⊢
        refine bind_place wf chain ⟨plan.1, plan.2.1, trivial⟩ fun d' rewritten tables => ?_
        simp only [ne_eq, not_true_eq_false, if_false]
        rw [gptSetState_refines rewritten.wellFormed .primaryGpt false, tables]
        rfl
  | updateBackup =>
    simp only [runStage, planStage] at plan ⊢
    by_cases switched : switchXbl env .normalBoot ≠ 0
    · rw [if_pos switched, if_pos switched]; rfl
    · rw [if_neg switched] at plan ⊢
      rw [if_neg switched]
      refine bind_place wf (gptSetState_refines wf .primaryGpt true) ⟨plan.1, trivial⟩ fun d' rewritten tables => ?_
      simp only [ne_eq, not_true_eq_false, if_false]
      rw [gptSetState_refines rewritten.wellFormed .secondaryGpt false, tables]
      rfl
  | updateFinalize =>
    have chain := gpt2SetBootChain_refines wf env.isUfs .normalBoot
    simp only [runStage, planStage] at plan chain ⊢
    by_cases crc : get4 (d.tables .primaryHeader) partitionCrcOffset ≠ Crc32.crc32 (d.tables .primaryArray)
    · rw [if_pos crc] at chain ⊢
      rw [Prog.bind_apply, chain]
      rfl
    · rw [if_neg crc] at plan chain ⊢
      simp only [chainArray, Bool.false_eq_true, if_false] at chain
      refine bind_place wf chain ⟨plan.1, plan.2.1, trivial⟩ fun d' rewritten tables => ?_
      simp only [lt_self_iff_false, if_false]
      rw [gptSetState_refines rewritten.wellFormed .secondaryGpt true, tables]
      rfl

/-- On a well-formed disk `prepare_partitions` is its plan. -/
theorem preparePartitions_refines (wf : d.WellFormed) (env : Env) (stage : BootUpdateStage) :
    preparePartitions env stage d =
      ((prepareTables env stage d.tables).1, d.place (prepareTables env stage d.tables).2) := by
  have state (gpt : GptInstance) : gptGetState d gpt = some (headerState (d.tables gpt.header)) := by
    rw [gptGetState, wf.headerOffset gpt, Option.map_some, read_header]
  rw [preparePartitions, Prog.get_bind_apply, state, state]
  simp only [prepareTables, GptInstance.header]
  generalize internalStage (headerState (d.tables .primaryHeader)) (headerState (d.tables .secondaryHeader)) = due
  cases due with
  | none => rfl
  | some internal =>
    simp only
    split_ifs
    · rfl
    · rfl
    · exact runStage_refines wf env stage

end Refinement

end Cypfr.Gpt
