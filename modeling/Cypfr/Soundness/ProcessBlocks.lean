import Cypfr.Proofs.LocProcessConf
import Mathlib.Algebra.Order.BigOperators.Group.List

/-! # Processes that depend on each other

The blocks of a file are told apart by counting lines, and what one of them gives stays for the next. So the entry of a
block depends on the others, unless each block gives all twelve parameters and a name.
-/

namespace Cypfr.LocCfg

open List

/-- A block: the name, and then other parameters, each once at most. -/
structure IsBlock (block : List Bytes) : Prop where
  named : ∃ line rest, block = line :: rest ∧ names line = true
  each : ∀ line ∈ block, assigns locMaxParamString processTable line = true
  once : ∀ entry ∈ processTable, (block.countP fun line => (entry.assignedBy locMaxParamString line).isSome) ≤ 1

/-- A file of blocks, with their lines as they are read. -/
structure ProcessFile where
  blocks : List (List Bytes)
  isBlock : ∀ block ∈ blocks, IsBlock block
  records : Records locMaxParamString blocks.flatten

namespace ProcessFile

variable (file : ProcessFile)

def bytes : Bytes := file.blocks.flatten.flatten

/-- What `loc_read_process_conf` returns for it. -/
def entries (device : Device) (conf : LocLauncherConf) : List LocProcessInfo :=
  (locReadProcessConf device (some file.bytes) conf).2.1

end ProcessFile

/-- Each block has one entry, in turn, and the same block has the same entry. -/
def Independent (device : Device) (conf : LocLauncherConf) (one two : ProcessFile) : Prop :=
  (one.entries device conf).length = one.blocks.length ∧ (two.entries device conf).length = two.blocks.length ∧
    ∀ (i j : ℕ) (block : List Bytes), one.blocks[i]? = some block → two.blocks[j]? = some block →
      (one.entries device conf)[i]? = (two.entries device conf)[j]?

/-- A block gives all parameters, and a name that is not empty. -/
def Complete (block : List Bytes) : Prop :=
  Given locMaxParamString processTable block ∧ nameOf (block.headD []) ≠ []

namespace IsBlock

variable {block : List Bytes} (isBlock : IsBlock block)

include isBlock

theorem headed : Headed block := by
  obtain ⟨line, rest, rfl, own⟩ := isBlock.named
  refine ⟨line, rest, rfl, own, fun other member => ?_⟩
  have once : (line :: rest).countP names ≤ 1 := isBlock.once nameParam mem_cons_self
  rw [countP_cons_of_pos own] at once
  have none := countP_eq_zero.mp (Nat.le_zero.mp (Nat.le_of_succ_le_succ once)) other member
  exact Bool.eq_false_iff.mpr none

/-- Its lines are as many as the parameters that it gives. -/
theorem length_eq : block.length = (processTable.map fun entry =>
    block.countP fun line => (entry.assignedBy locMaxParamString line).isSome).sum := by
  refine length_eq_sum_countP (fun (entry : LocParamS Unit) line => (entry.assignedBy locMaxParamString line).isSome) _
    fun line member => ?_
  exact (countP_assignedBy (table_distinct (ProcessParams.ofTable [])) line).trans (if_pos (isBlock.each line member))

theorem length_of_given (given : Given locMaxParamString processTable block) : block.length = 12 := by
  have one : (processTable.map fun entry => block.countP fun line => (entry.assignedBy locMaxParamString line).isSome) =
      processTable.map fun _ => 1 := by
    apply map_congr_left
    intro entry member
    exact Nat.le_antisymm (isBlock.once entry member) (countP_pos_iff.mpr (given entry member))
  rw [isBlock.length_eq, one]
  rfl

theorem length_lt_of_not_given (missing : ¬ Given locMaxParamString processTable block) : block.length < 12 := by
  rw [Given] at missing
  push Not at missing
  obtain ⟨entry, member, missing⟩ := missing
  have none : (block.countP fun line => (entry.assignedBy locMaxParamString line).isSome) = 0 :=
    countP_eq_zero.mpr missing
  rw [isBlock.length_eq]
  exact sum_lt_sum _ (fun _ => 1) isBlock.once ⟨entry, member, by rw [none]; exact Nat.one_pos⟩

end IsBlock

section Entries

variable (device : Device) (conf : LocLauncherConf) (file : ProcessFile)

/-- `SGLTE_TARGET` after `gps.conf` is read. -/
def sglteTargetOf : Int32 :=
  ((locReadConfLong device.gpsConf (gpsConfParameterTable conf.sglteTarget) locParamTable locMaxParamString).1.map
    LocParamS.numberValue).headD 0

/-- The entry of a block that gives all parameters. -/
def entryOf (block : List Bytes) : LocProcessInfo :=
  blockEntry device (conf.feature.locServiceMask device.useGlib) (sglteTargetOf device conf) block

/-- The count of the names. -/
def count : UInt8 := (countLoop (file.bytes.length + 1) file.bytes conf.process 0).1

namespace ProcessFile

theorem each : ∀ line ∈ file.blocks.flatten, assigns locMaxParamString processTable line = true := by
  intro line member
  obtain ⟨block, there, own⟩ := mem_flatten.mp member
  exact (file.isBlock block there).each line own

/-- The features are those that stand in the configuration. -/
theorem entries_eq : ∃ params, file.entries device conf =
    (blockLoop device (conf.feature.locServiceMask device.useGlib) (sglteTargetOf device conf)
      (count conf file).toNat file.bytes params).1 := by
  refine ⟨(countLoop (file.bytes.length + 1) file.bytes conf.process 0).2, ?_⟩
  rw [entries, locReadProcessConf]
  simp only [bytes, read_features file.records file.each]
  rfl

theorem length_entries : (file.entries device conf).length = (count conf file).toNat := by
  obtain ⟨params, same⟩ := file.entries_eq device conf
  rw [same, length_blockLoop]

theorem length_le : file.blocks.length ≤ file.bytes.length := by
  have blocks : file.blocks.length ≤ file.blocks.flatten.length := by
    have filled := file.isBlock
    generalize file.blocks = blocks at filled
    induction blocks with
    | nil => exact Nat.le_refl _
    | cons block blocks ih =>
      obtain ⟨line, rest, rfl, -⟩ := (filled block mem_cons_self).named
      have later := ih fun block member => filled block (mem_cons_of_mem _ member)
      rw [flatten_cons, length_append, length_cons, length_cons]
      omega
  exact Nat.le_trans blocks file.records.length_le

/-- Names that are not empty are counted, if they are not too many. -/
theorem count_eq (named : ∀ block ∈ file.blocks, nameOf (block.headD []) ≠ []) (few : file.blocks.length < 256) :
    (count conf file).toNat = file.blocks.length := by
  have counted := countLoop_eq [] file.records nofun (fun block member => (file.isBlock block member).headed)
    named (file.bytes.length + 1) (Nat.lt_succ_of_le file.length_le) conf.process 0
  have value : (UInt8.ofNat file.blocks.length).toNat = file.blocks.length := by
    rw [UInt8.toNat_ofNat', Nat.mod_eq_of_lt few]
  rw [nil_append, UInt8.zero_add] at counted
  exact (congrArg UInt8.toNat counted).trans value

/-- Complete blocks have the entries that their lines give. -/
theorem entries_of_complete (complete : ∀ block ∈ file.blocks, Complete block) (few : file.blocks.length < 256) :
    file.entries device conf = file.blocks.map (entryOf device conf) := by
  obtain ⟨params, same⟩ := file.entries_eq device conf
  rw [same, file.count_eq conf (fun block member => (complete block member).2) few]
  exact blockLoop_eq device _ _ file.records file.each
    (fun block member => (file.isBlock block member).length_of_given (complete block member).1)
    (fun block member => (complete block member).1) params

end ProcessFile

end Entries

/-- Files of complete blocks, and not too many of them, are independent. -/
theorem independent_of_complete (device : Device) (conf : LocLauncherConf) {one two : ProcessFile}
    (complete : ∀ block ∈ one.blocks, Complete block) (few : one.blocks.length < 256)
    (complete' : ∀ block ∈ two.blocks, Complete block) (few' : two.blocks.length < 256) :
    Independent device conf one two := by
  rw [Independent, one.entries_of_complete device conf complete few, two.entries_of_complete device conf complete' few',
    length_map, length_map]
  refine ⟨rfl, rfl, fun i j block there there' => ?_⟩
  rw [getElem?_map, getElem?_map, there, there']

/-- A block that others can follow. -/
structure ProcessBlock where
  lines : List Bytes
  isBlock : IsBlock lines
  followed : ∀ records, Records locMaxParamString records → Records locMaxParamString (lines ++ records)

theorem records_of_blocks (blocks : List ProcessBlock) :
    Records locMaxParamString (blocks.map (·.lines)).flatten := by
  induction blocks with
  | nil => exact Records.nil
  | cons block blocks ih => exact block.followed _ ih

/-- Blocks in turn. -/
def ProcessFile.ofBlocks (blocks : List ProcessBlock) : ProcessFile where
  blocks := blocks.map (·.lines)
  isBlock := by
    intro lines member
    obtain ⟨block, -, rfl⟩ := mem_map.mp member
    exact block.isBlock
  records := records_of_blocks blocks

/-- Lines with a newline that are not too long can be followed. -/
theorem followed_of_lines {size : ℕ} {block : List Bytes}
    (ended : ∀ line ∈ block, line.dropLast ++ [10] = line ∧ 10 ∉ line.dropLast ∧ line.dropLast.length + 2 ≤ size)
    (records : List Bytes) (rest : Records size records) : Records size (block ++ records) := by
  induction block with
  | nil => exact rest
  | cons line block ih =>
    obtain ⟨newline, noNewline, short⟩ := ended line mem_cons_self
    have later := ih fun line member => ended line (mem_cons_of_mem _ member)
    have first := Records.line noNewline short later
    rwa [newline] at first

section Samples

/-- The parameters of a process for all devices, after its name. -/
def sampleRest : List Bytes :=
  [ascii "PROCESS_ARGUMENT=NULL\n", ascii "PROCESS_STATE=ENABLED\n", ascii "PROCESS_GROUPS=gps\n",
    ascii "PREMIUM_FEATURE=0\n", ascii "IZAT_FEATURE_MASK=0\n", ascii "PLATFORMS=all\n", ascii "SOC_IDS=all\n",
    ascii "BASEBAND=all\n", ascii "LOW_RAM_TARGETS=ENABLED\n", ascii "HARDWARE_TYPE=all\n",
    ascii "VENDOR_ENHANCED_PROCESS=0\n"]

def sampleName (second : Bool) : Bytes := if second then ascii "two" else ascii "one"

/-- Two complete blocks that differ in their names. -/
def sample (second : Bool) : ProcessBlock where
  lines := (ascii "PROCESS_NAME=" ++ sampleName second ++ [10]) :: sampleRest
  isBlock := ⟨⟨_, _, rfl, by cases second <;> decide⟩, by cases second <;> decide, by cases second <;> decide⟩
  followed := followed_of_lines (by cases second <;> decide)

theorem sample_complete (second : Bool) : Complete (sample second).lines := by
  have given : ∀ entry ∈ processTable, ∃ line ∈ (sample second).lines,
      (entry.assignedBy locMaxParamString line).isSome = true := by cases second <;> decide
  exact ⟨given, by cases second <;> decide⟩

variable (device : Device) (conf : LocLauncherConf)

theorem name_sample (second : Bool) : (entryOf device conf (sample second).lines).name = sampleName second := by
  have accepted : ((ProcessParams.ofTable []).after (sample second).lines).Accepted ∧
      strlcpy ((ProcessParams.ofTable []).after (sample second).lines).procName locMaxParamString =
        sampleName second := by cases second <;> decide
  rw [entryOf, blockEntry, ProcessParams.name_evaluate _ _ _ accepted.1, accepted.2]

/-- The last lines of one and the first lines of the other are the lines of the other in a different order. -/
theorem mixture_perm (n : ℕ) :
    ((sample false).lines.drop (n + 1) ++ (sample true).lines.take (n + 1)).Perm (sample true).lines := by
  rw [sample, sample, drop_succ_cons, take_succ_cons]
  refine perm_middle.trans (Perm.cons _ ?_)
  have whole : (sampleRest.take n ++ sampleRest.drop n).Perm sampleRest := by rw [take_append_drop]
  exact perm_append_comm.trans whole

/-- They leave what the lines of the other leave. -/
theorem after_mixture (n : ℕ) (params : ProcessParams) :
    params.after ((sample false).lines.drop (n + 1) ++ (sample true).lines.take (n + 1)) =
      (ProcessParams.ofTable []).after (sample true).lines := by
  have perm := mixture_perm n
  have given : Given locMaxParamString processTable
      ((sample false).lines.drop (n + 1) ++ (sample true).lines.take (n + 1)) := by
    intro entry member
    obtain ⟨line, there, assigned⟩ := (sample_complete true).1 entry member
    exact ⟨line, perm.mem_iff.mpr there, assigned⟩
  rw [ProcessParams.after_of_given given, ProcessParams.after_perm perm]
  intro entry member
  rw [perm.countP_eq]
  exact (sample true).isBlock.once entry member

/-- A block before the two. -/
def mixed (block : ProcessBlock) : ProcessFile := ProcessFile.ofBlocks [block, sample false, sample true]

variable {block : ProcessBlock}

/-- With fewer lines than parameters before it, the first of the two has the entry of the second. -/
theorem entries_mixed (named : nameOf (block.lines.headD []) ≠ []) (short : block.lines.length < 12) :
    ((mixed block).entries device conf)[1]? = some (entryOf device conf (sample true).lines) := by
  obtain ⟨params, same⟩ := (mixed block).entries_eq device conf
  have three : (count conf (mixed block)).toNat = 2 + 1 := by
    refine (mixed block).count_eq conf (fun lines member => ?_) (show 3 < 256 by decide)
    obtain rfl | rfl | rfl := by simpa [mixed, ProcessFile.ofBlocks] using member
    · exact named
    · exact (sample_complete false).2
    · exact (sample_complete true).2
  obtain ⟨n, length⟩ : ∃ n, block.lines.length + (n + 1) = 12 := ⟨11 - block.lines.length, by omega⟩
  have second : ((mixed block).blocks.flatten.drop 12).take 12 =
      (sample false).lines.drop (n + 1) ++ (sample true).lines.take (n + 1) := by
    have whole : (mixed block).blocks.flatten = block.lines ++ ((sample false).lines ++ (sample true).lines) := by
      simp [mixed, ProcessFile.ofBlocks]
    have twelve : (sample false).lines.length = 12 := rfl
    have first : 12 - block.lines.length = n + 1 := by omega
    have rest : ((sample false).lines.drop (n + 1)).length = 12 - (n + 1) := by rw [length_drop, twelve]
    have more : 12 - (12 - (n + 1)) = n + 1 := by omega
    rw [whole, drop_append, drop_eq_nil_of_le (by omega), nil_append, first,
      drop_append_of_le_length (by rw [twelve]; omega), take_append, rest, more,
      take_of_length_le (by rw [rest]; exact Nat.sub_le _ _)]
  have left : Records locMaxParamString ((mixed block).blocks.flatten.drop 12) :=
    (mixed block).records.of_suffix (drop_suffix _ _)
  rw [same, three, ProcessFile.bytes, blockLoop_succ device _ _ (mixed block).records (mixed block).each,
    getElem?_cons_succ, blockLoop_succ device _ _ left
      (fun line member => (mixed block).each line (mem_of_mem_drop member)),
    getElem?_cons_zero, second, after_mixture]
  rfl

theorem not_independent_mixed (block : ProcessBlock) (named : nameOf (block.lines.headD []) ≠ [])
    (short : block.lines.length < 12) :
    ¬ Independent device conf (mixed block) (ProcessFile.ofBlocks [sample false]) := by
  intro independent
  have alone := (ProcessFile.ofBlocks [sample false]).entries_of_complete device conf
    (by rintro lines (_ | ⟨_, ⟨⟩⟩); exact sample_complete false) (by decide)
  have same := independent.2.2 1 0 (sample false).lines rfl rfl
  rw [entries_mixed device conf named short, alone] at same
  have names := congrArg LocProcessInfo.name (Option.some_inj.mp same)
  rw [name_sample, name_sample] at names
  exact absurd names (by decide)

end Samples

/-- A file has so many blocks at most, of which each is the given one or complete. -/
def ProcessFile.MadeOf (block : ProcessBlock) (most : ℕ) (file : ProcessFile) : Prop :=
  file.blocks.length ≤ most ∧ ∀ lines ∈ file.blocks, lines = block.lines ∨ Complete lines

/-- So many copies of a complete block. -/
theorem madeOf_replicate (block sample : ProcessBlock) (complete : Complete sample.lines) (n : ℕ) :
    (ProcessFile.ofBlocks (replicate n sample)).MadeOf block n := by
  refine ⟨?_, fun lines member => Or.inr ?_⟩
  · rw [ProcessFile.ofBlocks, length_map, length_replicate]
  · obtain ⟨other, there, rfl⟩ := mem_map.mp member
    rwa [eq_of_mem_replicate there]

theorem madeOf_single (block : ProcessBlock) (n : ℕ) : (ProcessFile.ofBlocks [block]).MadeOf block (n + 1) := by
  refine ⟨Nat.le_add_left 1 n, fun lines member => Or.inl ?_⟩
  exact mem_singleton.mp member

theorem madeOf_mixed (block : ProcessBlock) (n : ℕ) : (mixed block).MadeOf block (n + 3) := by
  refine ⟨Nat.le_add_left 3 n, fun lines member => ?_⟩
  obtain rfl | rfl | rfl := by simpa [mixed, ProcessFile.ofBlocks] using member
  · exact Or.inl rfl
  · exact Or.inr (sample_complete false)
  · exact Or.inr (sample_complete true)

/-- There are fewer than 256 entries. -/
theorem length_entries_lt (device : Device) (conf : LocLauncherConf) (file : ProcessFile) :
    (file.entries device conf).length < 256 := by
  rw [file.length_entries]
  exact UInt8.toNat_lt _

/-- A block with an empty name has no entry. -/
theorem entries_of_nameless (device : Device) (conf : LocLauncherConf) {block : ProcessBlock}
    (none : nameOf (block.lines.headD []) = []) : (ProcessFile.ofBlocks [block]).entries device conf = [] := by
  obtain ⟨line, rest, lines, own, -⟩ := block.isBlock.headed
  have bytes : (ProcessFile.ofBlocks [block]).blocks.flatten = [] ++ line :: rest := by
    simp [ProcessFile.ofBlocks, lines]
  have records := (ProcessFile.ofBlocks [block]).records
  rw [bytes] at records
  rw [lines, headD_cons] at none
  have zero := countLoop_cons records nofun own (ProcessFile.ofBlocks [block]).bytes.length conf.process 0
  rw [← bytes, if_pos none] at zero
  rw [← length_eq_zero_iff, ProcessFile.length_entries]
  exact congrArg UInt8.toNat zero

/-- Files are independent, whatever complete blocks stand with a block, exactly when it is complete and they have
fewer than 256 blocks. -/
theorem independent_iff (device : Device) (conf : LocLauncherConf) (block : ProcessBlock) (n : ℕ) :
    (∀ one two : ProcessFile, one.MadeOf block (n + 3) → two.MadeOf block (n + 3) → Independent device conf one two) ↔
      n + 3 < 256 ∧ Complete block.lines := by
  constructor
  · intro all
    have few : n + 3 < 256 := by
      have copies := madeOf_replicate block (sample false) (sample_complete false) (n + 3)
      have length := (all _ _ copies copies).1
      have bound := length_entries_lt device conf (ProcessFile.ofBlocks (replicate (n + 3) (sample false)))
      rw [length, ProcessFile.ofBlocks, length_map, length_replicate] at bound
      exact bound
    have named : nameOf (block.lines.headD []) ≠ [] := by
      intro none
      have single := madeOf_single block (n + 2)
      have length := (all _ _ single single).1
      rw [entries_of_nameless device conf none] at length
      cases length
    refine ⟨few, ?_, named⟩
    by_contra missing
    refine not_independent_mixed device conf block named (block.isBlock.length_lt_of_not_given missing) (all _ _ ?_ ?_)
    · exact madeOf_mixed block n
    · exact ⟨Nat.le_add_left 1 (n + 2), fun lines member => Or.inr (mem_singleton.mp member ▸ sample_complete false)⟩
  · rintro ⟨few, complete⟩ one two madeOne madeTwo
    have each {file : ProcessFile} (made : file.MadeOf block (n + 3)) : ∀ lines ∈ file.blocks, Complete lines := by
      intro lines member
      obtain rfl | own := made.2 lines member
      · exact complete
      · exact own
    exact independent_of_complete device conf (each madeOne) (Nat.lt_of_le_of_lt madeOne.1 few) (each madeTwo)
      (Nat.lt_of_le_of_lt madeTwo.1 few)

/-- A block of a name alone. -/
def nameOnly : ProcessBlock where
  lines := [ascii "PROCESS_NAME=zero\n"]
  isBlock := ⟨⟨_, _, rfl, by decide⟩, by decide, by decide⟩
  followed := followed_of_lines (by decide)

def sampleDevice : Device where
  platformName := ascii "msm"
  basebandName := ascii "msm"
  autoplatformName := []
  lowRamTarget := false
  socidValue := []
  vendorEnhanced := true
  getgrnam _ := none
  gpsConf := none
  useGlib := false

/-- `conf` as it is at first. -/
def launcherConf : LocLauncherConf := ⟨ProcessParams.ofTable [], FeatureParams.ofTable [], 0⟩

/-- After a name alone the next block has the name of the block after it. -/
theorem name_is_overwritten : ¬ ∀ (device : Device) (conf : LocLauncherConf) (one two : ProcessFile),
    Independent device conf one two := fun all =>
  not_independent_mixed sampleDevice launcherConf nameOnly (by decide) (by decide)
    (all sampleDevice launcherConf (mixed nameOnly) (ProcessFile.ofBlocks [sample false]))

end Cypfr.LocCfg
