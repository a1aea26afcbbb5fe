import Cypfr.Model.LocProcessConf
import Cypfr.Proofs.LocCfg

/-! # The blocks of a file

A file of lines that each assign a parameter of a process is cut after each twelve of them. Lines that give all
parameters leave the same in them, whatever they held.
-/

namespace Cypfr.LocCfg

open List

section Table

theorem stringParam_alike (name : String) (value value' : Bytes) :
    (stringParam name value).Alike (stringParam name value') := ⟨rfl, rfl, rfl, rfl, rfl⟩

theorem numberParam_alike (name : String) (value value' : Int32) :
    (numberParam name value).Alike (numberParam name value') := ⟨rfl, rfl, rfl, rfl, rfl⟩

/-- The parameters of a process, with nothing in them. -/
def processTable : List (LocParamS Unit) := (ProcessParams.ofTable []).table

theorem table_alike (params : ProcessParams) : Forall₂ LocParamS.Alike params.table processTable := by
  rw [processTable, ProcessParams.table, ProcessParams.table]
  simp only [forall₂_cons, Forall₂.nil, stringParam_alike, numberParam_alike, and_self]

theorem table_distinct (params : ProcessParams) : (params.table.map (·.paramName)).Nodup := by
  have names : (processTable.map (·.paramName)).Nodup := by decide
  exact names

theorem featureTable_distinct (params : FeatureParams) : (params.table.map (·.paramName)).Nodup := by
  have names : ((FeatureParams.ofTable []).table.map (·.paramName)).Nodup := by decide
  exact names

/-- No parameter of a process is a feature. -/
theorem paramName_ne (params : FeatureParams) : ∀ entry ∈ processTable, ∀ feature ∈ params.table,
    entry.paramName ≠ feature.paramName := by
  have names : ∀ name ∈ processTable.map (·.paramName), ∀ feature ∈ (FeatureParams.ofTable []).table.map (·.paramName),
      name ≠ feature := by decide
  intro entry member feature there
  exact names _ (mem_map_of_mem member) _ (mem_map_of_mem (f := (·.paramName)) there)

variable {D : Type} [CDouble D] {stringLen : ℕ} {configTable other : List (LocParamS D)}

theorem assigns_of_alike (alike : Forall₂ LocParamS.Alike configTable other) :
    assigns stringLen configTable = assigns stringLen other := by
  funext line
  induction alike with
  | nil => rfl
  | cons own rest ih =>
    rw [assigns, assigns] at ih
    rw [assigns, any_cons, ih, own.assignedBy, assigns, any_cons]

/-- The lines give each parameter of a table. -/
def Given (stringLen : ℕ) (configTable : List (LocParamS D)) (lines : List Bytes) : Prop :=
  ∀ entry ∈ configTable, ∃ line ∈ lines, (entry.assignedBy stringLen line).isSome = true

theorem map_fillAll_of_given {lines : List Bytes} (alike : Forall₂ LocParamS.Alike configTable other)
    (given : Given stringLen other lines) :
    configTable.map (LocParamS.fillAll stringLen lines) = other.map (LocParamS.fillAll stringLen lines) := by
  induction alike with
  | nil => rfl
  | cons own rest ih =>
    rw [map_cons, map_cons, own.fillAll (own.held (given _ mem_cons_self)),
      ih fun entry member => given entry (mem_cons_of_mem _ member)]

end Table

namespace ProcessParams

/-- The parameters after lines. -/
def after (params : ProcessParams) (lines : List Bytes) : ProcessParams :=
  ofTable (params.table.map (LocParamS.fillAll locMaxParamString lines))

/-- With lines that give all parameters it makes no difference what was there. -/
theorem after_of_given {lines : List Bytes} (given : Given locMaxParamString processTable lines)
    (params : ProcessParams) : params.after lines = (ofTable []).after lines :=
  congrArg ofTable (map_fillAll_of_given (table_alike params) given)

/-- The order of lines makes no difference when one at most assigns each parameter. -/
theorem after_perm {lines lines' : List Bytes} (perm : lines.Perm lines')
    (once : ∀ entry ∈ processTable,
      (lines.countP fun line => (entry.assignedBy locMaxParamString line).isSome) ≤ 1) :
    (ofTable []).after lines = (ofTable []).after lines' := by
  refine congrArg ofTable (map_congr_left fun entry member => ?_)
  have unmarked : ∀ entry ∈ processTable, entry.paramSet = none := by decide
  have self : entry.Alike entry := ⟨rfl, rfl, rfl, unmarked entry member, unmarked entry member⟩
  exact self.fillAll (LocParamS.held_perm perm (once entry member))

/-- Nothing stands against the parameters before the name is taken. -/
def Accepted (params : ProcessParams) : Prop :=
  ¬ (params.procName = [] ∨ params.groupList = [] ∨ params.platformList = [] ∨ params.baseband = [] ∨
      params.procStatus = [] ∨ params.autoPlatform = [] ∨ params.socIdList = []) ∧
    params.vendorEnhancedProcess = 0 ∧ params.procStatus ≠ ascii "DISABLED" ∧
      params.procName.length + 1 ≤ locMaxParamString

instance (params : ProcessParams) : Decidable params.Accepted :=
  inferInstanceAs (Decidable (_ ∧ _))

theorem name_launch (params : ProcessParams) (locServiceMask : UInt32) (name : Bytes) (groupList : List UInt32) :
    (params.launch locServiceMask name groupList).name = name := by
  rw [launch]
  split_ifs <;> rfl

/-- Then the entry has the name. -/
theorem name_evaluate (device : Device) (locServiceMask : UInt32) (sglteTarget : Int32) {params : ProcessParams}
    (accepted : params.Accepted) :
    (params.evaluate device locServiceMask sglteTarget).1.name = strlcpy params.procName locMaxParamString := by
  obtain ⟨filled, vendor, enabled, short⟩ := accepted
  rw [evaluate, if_neg filled, if_neg (fun both => both.2 vendor), if_neg enabled, if_neg (Nat.not_lt.mpr short)]
  split_ifs
  · rfl
  · exact name_launch params _ _ _
  · rfl

end ProcessParams

section Read

variable {records : List Bytes}

/-- A block takes the next twelve lines that assign its parameters. -/
theorem read_block (lines : Records locMaxParamString records)
    (each : ∀ line ∈ records, assigns locMaxParamString processTable line = true) (params : ProcessParams) :
    locReadConfRLong records.flatten params.table locMaxParamString = ((records.drop 12).flatten,
      params.table.map (LocParamS.fillAll locMaxParamString (records.take 12))) := by
  have length : params.table.length = 12 := rfl
  have read := locReadConfRLong_eq lines ⟨params.table, table_distinct params, by rw [length]; omega⟩
  simp only [assigns_of_alike (table_alike params), length, untilCount_of_all each, afterCount_of_all each] at read
  exact read

variable (device : Device) (locServiceMask : UInt32) (sglteTarget : Int32)

/-- The entry of lines that give all parameters. -/
def blockEntry (lines : List Bytes) : LocProcessInfo :=
  (((ProcessParams.ofTable []).after lines).evaluate device locServiceMask sglteTarget).1

/-- The entries of one more block. -/
theorem blockLoop_succ (lines : Records locMaxParamString records)
    (each : ∀ line ∈ records, assigns locMaxParamString processTable line = true) (left : ℕ) (params : ProcessParams) :
    (blockLoop device locServiceMask sglteTarget (left + 1) records.flatten params).1 =
      ((params.after (records.take 12)).evaluate device locServiceMask sglteTarget).1 ::
        (blockLoop device locServiceMask sglteTarget left (records.drop 12).flatten
          ((params.after (records.take 12)).evaluate device locServiceMask sglteTarget).2).1 := by
  rw [blockLoop, read_block lines each]
  rfl

theorem length_blockLoop (left : ℕ) (confFp : Bytes) (params : ProcessParams) :
    (blockLoop device locServiceMask sglteTarget left confFp params).1.length = left := by
  induction left generalizing confFp params with
  | zero => rfl
  | succ left ih => exact congrArg Nat.succ (ih _ _)

/-- Blocks of twelve lines that give all parameters have the entries of their lines. -/
theorem blockLoop_eq {blocks : List (List Bytes)} (lines : Records locMaxParamString blocks.flatten)
    (each : ∀ line ∈ blocks.flatten, assigns locMaxParamString processTable line = true)
    (twelve : ∀ block ∈ blocks, block.length = 12)
    (given : ∀ block ∈ blocks, Given locMaxParamString processTable block) (params : ProcessParams) :
    (blockLoop device locServiceMask sglteTarget blocks.length blocks.flatten.flatten params).1 =
      blocks.map (blockEntry device locServiceMask sglteTarget) := by
  induction blocks generalizing params with
  | nil => rfl
  | cons block blocks ih =>
    have first := twelve block mem_cons_self
    have later :=
      ih (lines.of_suffix (suffix_append block _)) (fun line member => each line (mem_append_right _ member))
      (fun block member => twelve block (mem_cons_of_mem _ member))
      (fun block member => given block (mem_cons_of_mem _ member))
    rw [length_cons, blockLoop_succ device locServiceMask sglteTarget lines each, flatten_cons, ← first, take_left,
      drop_left, later, ProcessParams.after_of_given (given block mem_cons_self), map_cons, blockEntry]

end Read

section Count

/-- `PROCESS_NAME`. -/
def nameParam : LocParamS Unit := stringParam "PROCESS_NAME" []

/-- A line assigns the name. -/
def names (line : Bytes) : Bool := (nameParam.assignedBy locMaxParamString line).isSome

/-- The name that a line assigns. -/
def nameOf (line : Bytes) : Bytes := (nameParam.fill locMaxParamString line).stringValue

variable {records others : List Bytes}

/-- The next name is read with the lines up to the next that assigns it. -/
theorem read_name (lines : Records locMaxParamString records) :
    locReadConfRLong records.flatten [nameParam] locMaxParamString = ((records.afterCount names 1).flatten,
      [nameParam.fillAll locMaxParamString (records.untilCount names 1)]) := by
  have only : assigns locMaxParamString [nameParam] = names := by
    funext line
    rw [assigns, any_cons, any_nil, Bool.or_false, names]
  have read := locReadConfRLong_eq lines ⟨[nameParam], nodup_singleton _, by rw [length_singleton]; omega⟩
  simp only [only, length_singleton] at read
  exact read

theorem name_of_none (none : ∀ line ∈ others, names line = false) :
    (nameParam.fillAll locMaxParamString others).stringValue = [] := by
  rw [LocParamS.fillAll_of_none fun line member =>
    Option.not_isSome_iff_eq_none.mp (Bool.eq_false_iff.mp (none line member))]
  rfl

theorem name_concat {line : Bytes} (own : names line = true) :
    (nameParam.fillAll locMaxParamString (others ++ [line])).stringValue = nameOf line := by
  obtain ⟨value, assigned⟩ := Option.isSome_iff_exists.mp own
  rw [nameOf, LocParamS.stringValue, LocParamS.stringValue, LocParamS.param_fillAll, LocParamS.held_concat,
    LocParamS.param_fill, assigned, Option.some_or, Option.some_or]

/-- When no name follows, the names are counted. -/
theorem countLoop_of_none (lines : Records locMaxParamString others) (none : ∀ line ∈ others, names line = false)
    (fuel : ℕ) (params : ProcessParams) (procListLength : UInt8) :
    (countLoop fuel others.flatten params procListLength).1 = procListLength := by
  cases fuel with
  | zero => rfl
  | succ fuel =>
    have table : ({ params with procName := [] } : ProcessParams).table.take 1 = [nameParam] := rfl
    rw [countLoop]
    simp only [table, read_name lines, untilCount_of_none none, map_cons, map_nil, headD_cons, name_of_none none,
      if_true]

/-- The next name is counted, unless it is empty. -/
theorem countLoop_cons {line : Bytes} (lines : Records locMaxParamString (others ++ line :: records))
    (none : ∀ line ∈ others, names line = false) (own : names line = true) (fuel : ℕ) (params : ProcessParams)
    (procListLength : UInt8) :
    (countLoop (fuel + 1) (others ++ line :: records).flatten params procListLength).1 =
      if nameOf line = [] then procListLength
      else (countLoop fuel records.flatten { params with procName := nameOf line } (procListLength + 1)).1 := by
  have table : ({ params with procName := [] } : ProcessParams).table.take 1 = [nameParam] := rfl
  rw [countLoop]
  simp only [table, read_name lines, untilCount_one none own, afterCount_one none own, map_cons, map_nil, headD_cons,
    name_concat own]
  split_ifs <;> rfl

/-- A block has its name in the first line, and only there. -/
def Headed (block : List Bytes) : Prop :=
  ∃ line rest, block = line :: rest ∧ names line = true ∧ ∀ line ∈ rest, names line = false

/-- Blocks with names that are not empty are counted. -/
theorem countLoop_eq (others : List Bytes) {blocks : List (List Bytes)}
    (lines : Records locMaxParamString (others ++ blocks.flatten))
    (none : ∀ line ∈ others, names line = false) (headed : ∀ block ∈ blocks, Headed block)
    (named : ∀ block ∈ blocks, nameOf (block.headD []) ≠ []) (fuel : ℕ) (enough : blocks.length < fuel)
    (params : ProcessParams) (procListLength : UInt8) :
    (countLoop fuel (others ++ blocks.flatten).flatten params procListLength).1 =
      procListLength + UInt8.ofNat blocks.length := by
  induction blocks generalizing others fuel params procListLength with
  | nil =>
    rw [flatten_nil, append_nil] at lines ⊢
    rw [countLoop_of_none lines none, length_nil]
    exact (UInt8.add_zero _).symm
  | cons block blocks ih =>
    obtain ⟨fuel, rfl⟩ := Nat.exists_eq_add_of_le' (show 1 ≤ fuel by omega)
    obtain ⟨line, rest, rfl, own, others'⟩ := headed block mem_cons_self
    have more := named _ mem_cons_self
    rw [headD_cons] at more
    rw [length_cons] at enough
    rw [flatten_cons, cons_append] at lines ⊢
    rw [countLoop_cons lines none own, if_neg more, ih rest (lines.of_suffix ⟨others ++ [line], by simp⟩) others'
      (fun block member => headed block (mem_cons_of_mem _ member))
      (fun block member => named block (mem_cons_of_mem _ member)) fuel (by omega), length_cons, UInt8.ofNat_add,
      UInt8.add_assoc, UInt8.add_comm 1]
    rfl

end Count

/-- Lines that assign parameters of processes leave the features. -/
theorem read_features {records : List Bytes} (lines : Records locMaxParamString records)
    (each : ∀ line ∈ records, assigns locMaxParamString processTable line = true) (feature : FeatureParams) :
    FeatureParams.ofTable (locReadConfLong (some records.flatten) feature.table locParamTable locMaxParamString).1 =
      feature := by
  have unset : ∀ line ∈ records, ∀ entry ∈ feature.table, entry.assignedBy locMaxParamString line = none := by
    intro line there entry member
    obtain ⟨param, own, assigned⟩ := any_eq_true.mp (each line there)
    by_contra some'
    exact paramName_ne feature param own entry member
      (LocParamS.paramName_eq assigned (Option.isSome_iff_ne_none.mpr some'))
  have miss : ∀ line ∈ records, assigns locMaxParamString feature.table line = false := by
    intro line there
    rw [assigns, any_eq_false]
    intro entry member
    rw [unset line there entry member]
    exact Bool.false_ne_true
  have length : feature.table.length = 6 + 1 := rfl
  have read := locReadConfRLong_eq lines ⟨feature.table, featureTable_distinct feature, by rw [length]; omega⟩
  have same : feature.table.map (LocParamS.fillAll locMaxParamString records) = feature.table :=
    (map_congr_left fun entry member => LocParamS.fillAll_of_none fun line there => unset line there entry member).trans
      (map_id _)
  have clear : feature.table.map LocParamS.clear = feature.table := rfl
  simp only [length, untilCount_of_none miss, clear, same] at read
  rw [locReadConfLong, if_neg (by exact cons_ne_nil _ _), read]
  rfl

end Cypfr.LocCfg
