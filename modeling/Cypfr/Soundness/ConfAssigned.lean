import Cypfr.Proofs.LocCfg

/-! # Parameters that are missed

Reading stops after as many assigning lines as there are parameters, of which some may assign one parameter again: then
another that is assigned further down keeps what it held.
-/

namespace Cypfr.LocCfg

variable {D : Type} [CDouble D] {stringLen : ℕ}

/-- A parameter that a line of a file assigns holds what one of them assigns, and any other what it held. -/
def RightlySet (file : ConfFile stringLen) (entry : LocParamS D) (value : Option (ParamValue D)) : Prop :=
  ((∃ line ∈ file.records, (entry.assignedBy stringLen line).isSome = true) →
      ∃ line ∈ file.records, (entry.assignedBy stringLen line).isSome = true ∧
        value = entry.assignedBy stringLen line) ∧
    ((∀ line ∈ file.records, entry.assignedBy stringLen line = none) → value = entry.param)

/-- So are all parameters of a table after a file is read. -/
def NoneMissed (file : ConfFile stringLen) (configTable : LocParamTable D) (paramTable : List (LocParamS D)) : Prop :=
  List.Forall₂ (RightlySet file) configTable.entries
    ((locReadConfLong (some file.bytes) configTable.entries paramTable stringLen).1.map (·.param))

/-- A parameter is assigned by one of the first lines that assign, or holds already what a line assigns to it. -/
def Reached (file : ConfFile stringLen) (configTable : LocParamTable D) (entry : LocParamS D) : Prop :=
  (∃ line ∈ (assigning stringLen configTable.entries file.records).take configTable.entries.length,
      (entry.assignedBy stringLen line).isSome = true) ∨
    ∃ line ∈ file.records, entry.assignedBy stringLen line = entry.param

variable {file : ConfFile stringLen} {configTable : LocParamTable D} {entry : LocParamS D}

theorem mem_records_of_mem_take {line : Bytes} {n : ℕ}
    (member : line ∈ (assigning stringLen configTable.entries file.records).take n) : line ∈ file.records :=
  (List.mem_filter.mp (List.mem_of_mem_take member)).1

/-- After the first lines that assign a parameter is right exactly when it is reached. -/
theorem rightlySet_iff : RightlySet file entry (entry.held stringLen
      ((assigning stringLen configTable.entries file.records).take configTable.entries.length)) ↔
    ((∃ line ∈ file.records, (entry.assignedBy stringLen line).isSome = true) → Reached file configTable entry) := by
  obtain ⟨line, member, assigned, same⟩ | ⟨unset, same⟩ := entry.held_cases stringLen
    ((assigning stringLen configTable.entries file.records).take configTable.entries.length)
  · have there := mem_records_of_mem_take member
    refine iff_of_true ⟨fun _ => ⟨line, there, assigned, same⟩, fun none => ?_⟩ fun _ => Or.inl ⟨line, member, assigned⟩
    rw [none line there] at assigned
    cases assigned
  · rw [same]
    constructor
    · intro right some'
      obtain ⟨line, there, -, value⟩ := right.1 some'
      exact Or.inr ⟨line, there, value.symm⟩
    · intro reached
      refine ⟨fun some' => ?_, fun _ => rfl⟩
      obtain ⟨line, member, assigned⟩ | ⟨line, there, value⟩ := reached some'
      · rw [unset line member] at assigned
        cases assigned
      · obtain ⟨other, -, assigned⟩ := some'
        obtain ⟨value', own⟩ := Option.isSome_iff_exists.mp assigned
        refine ⟨line, there, ?_, value.symm⟩
        rw [value]
        exact LocParamS.isSome_of_assignedBy own

theorem locReadConfLong_values (file : ConfFile stringLen) (configTable : LocParamTable D)
    (paramTable : List (LocParamS D)) :
    (locReadConfLong (some file.bytes) configTable.entries paramTable stringLen).1.map (·.param) =
      configTable.entries.map (LocParamS.held stringLen
        ((assigning stringLen configTable.entries file.records).take configTable.entries.length)) := by
  rw [locReadConfLong]
  by_cases none : configTable.entries = []
  · rw [if_pos none, none]
    rfl
  · rw [if_neg none]
    exact read_values configTable file

/-- No parameter of a table is missed exactly when each that a line of the file assigns is reached. -/
theorem noneMissed_iff (file : ConfFile stringLen) (configTable : LocParamTable D) (paramTable : List (LocParamS D)) :
    NoneMissed file configTable paramTable ↔ ∀ entry ∈ configTable.entries,
      (∃ line ∈ file.records, (entry.assignedBy stringLen line).isSome = true) → Reached file configTable entry := by
  rw [NoneMissed, locReadConfLong_values, List.forall₂_map_right_iff, List.forall₂_same]
  exact forall₂_congr fun _ _ => rightlySet_iff

/-- Two parameters, of which the first is assigned twice. -/
def twoParams : LocParamTable ℤ where
  entries := [⟨ascii "A", some (.number 0), none, 'n'⟩, ⟨ascii "B", some (.number 0), none, 'n'⟩]
  distinct := by decide
  length_lt := by decide

def repeated : ConfFile 172 where
  lines := [ascii "A=1", ascii "A=2", ascii "B=3"]
  last := []
  noNewline := by decide
  short := by decide

/-- The second is missed. -/
theorem repeated_misses_one : ¬ ∀ (file : ConfFile 172) (configTable : LocParamTable ℤ)
    (paramTable : List (LocParamS ℤ)), NoneMissed file configTable paramTable := by
  intro all
  have right := all repeated twoParams locParamTable
  rw [NoneMissed, locReadConfLong_values, List.forall₂_map_right_iff, List.forall₂_same] at right
  have second := rightlySet_iff.mp (right _ (List.mem_cons_of_mem _ List.mem_cons_self)) (by decide)
  rw [Reached] at second
  exact absurd second (by decide)

end Cypfr.LocCfg
