import Cypfr.Proofs.LocCfg

/-! # Updating and reading

A table that is updated from a text takes one line less than one that is read from a file with the same bytes, and
takes the lines without the newline that is part of a blank value.
-/

namespace Cypfr.LocCfg

open List

variable {D : Type} [CDouble D] {stringLen : ℕ}

/-- Updating and reading leave the same values in a table. -/
def Agree (text : ConfText stringLen) (configTable : LocParamTable D) : Prop :=
  (locUpdateConfLong text.bytes configTable.entries stringLen).2.map (·.param) =
    (locReadConfRLong text.bytes configTable.entries stringLen).2.map (·.param)

/-- They do exactly when the first lines that assign leave the same in each parameter as all but the last of them do
without their newlines. -/
theorem agree_iff (text : ConfText stringLen) (configTable : LocParamTable D) :
    Agree text configTable ↔ ∀ entry ∈ configTable.entries,
      entry.held stringLen ((assigning stringLen configTable.entries (text.lines ++ [text.last])).take
          (configTable.entries.length - 1)) =
        entry.held stringLen ((assigning stringLen configTable.entries text.records).take
          configTable.entries.length) := by
  rw [Agree, update_values, read_values]
  exact map_inj_left

/-- One parameter, and a text that assigns it. -/
def oneParam : LocParamTable ℤ := ⟨[⟨ascii "A", some (.number 0), none, 'n'⟩], by decide, by decide⟩

def assigned : ConfText 172 where
  lines := [ascii "A=1"]
  last := []
  noNewline := by decide
  short := by decide
  noNul := by decide

/-- It is read but not updated. -/
theorem single_is_not_updated : ¬ ∀ (text : ConfText 172) (configTable : LocParamTable ℤ), Agree text configTable := by
  intro all
  have same := all assigned oneParam
  rw [Agree, update_values, read_values, map_inj_left] at same
  exact absurd (same _ mem_cons_self) (by decide)

section Filled

/-- The value of a line, of which the name ends with an equals sign. -/
def valueText (line : Bytes) : Bytes :=
  ((line.dropWhile (ascii "=").contains).dropWhile fun b => !(ascii "=").contains b).drop 1

/-- A line without an equals sign after its name, or with a value that is not only spaces. -/
def Filled (line : Bytes) : Prop :=
  61 ∈ line.dropWhile (ascii "=").contains → (valueText line).all isSpace = false

theorem locUtilTrimSpace_newline {s : Bytes} (some' : s.all isSpace = false) :
    locUtilTrimSpace (s ++ [10]) = locUtilTrimSpace s := by
  have more : (s ++ [10]).all isSpace = false := by
    rw [all_append, some', Bool.false_and]
  have begun : s.dropWhile isSpace ≠ [] := by
    intro none
    rw [dropWhile_eq_nil_iff] at none
    rw [all_eq_true.mpr none] at some'
    cases some'
  rw [locUtilTrimSpace, locUtilTrimSpace, more, some', dropWhile_append, isEmpty_eq_false_iff.mpr begun]
  simp only [Bool.false_eq_true, if_false, reverse_append]
  rfl

theorem strtokR_of_ne {s : Bytes} (some' : s ≠ []) : strtokR [] s = some (s, []) := by
  have token : (s.takeWhile fun b => !([] : Bytes).contains b) = s := takeWhile_eq_self_iff.mpr fun _ _ => rfl
  have left : (s.dropWhile fun b => !([] : Bytes).contains b) = [] := dropWhile_eq_nil_iff.mpr fun _ _ => rfl
  have own : s.dropWhile ([] : Bytes).contains = s := by cases s <;> rfl
  rw [strtokR, own, if_neg some', token, left]
  rfl

theorem contains_equals (b : UInt8) : (ascii "=").contains b = decide (b = 61) := by
  have one : ascii "=" = [61] := rfl
  rw [one, contains_cons, contains_nil, Bool.or_false]
  rfl

/-- Without an equals sign after its name a line has no value. -/
theorem strtokR_of_not_mem {line : Bytes} (none' : 61 ∉ line.dropWhile (ascii "=").contains) :
    ∀ name lasts, strtokR (ascii "=") line = some (name, lasts) → lasts = [] := by
  intro name lasts token
  have each : ∀ b ∈ line.dropWhile (ascii "=").contains, (!(ascii "=").contains b) = true := by
    intro b member
    rw [contains_equals, Bool.not_eq_true', decide_eq_false_iff_not]
    rintro rfl
    exact none' member
  rw [strtokR] at token
  simp only [dropWhile_eq_nil_iff.mpr each] at token
  split_ifs at token
  cases token
  rfl

theorem strtokR_of_mem {line : Bytes} (some' : 61 ∈ line.dropWhile (ascii "=").contains) :
    strtokR (ascii "=") line =
      some ((line.dropWhile (ascii "=").contains).takeWhile fun b => !(ascii "=").contains b, valueText line) := by
  rw [strtokR, if_neg (ne_nil_of_mem some')]
  rfl

theorem dropWhile_newline (line : Bytes) : (line ++ [10]).dropWhile (ascii "=").contains =
    line.dropWhile (ascii "=").contains ++ [10] := by
  rw [dropWhile_append]
  split_ifs with none
  · rw [isEmpty_iff.mp none]
    rfl
  · rfl

/-- With a newline after it a line has the same name, and a value with a newline. -/
theorem strtokR_newline {line : Bytes} (some' : 61 ∈ line.dropWhile (ascii "=").contains) :
    strtokR (ascii "=") (line ++ [10]) =
      some ((line.dropWhile (ascii "=").contains).takeWhile fun b => !(ascii "=").contains b,
        valueText line ++ [10]) := by
  have there : 61 ∈ (line ++ [10]).dropWhile (ascii "=").contains := by
    rw [dropWhile_newline]
    exact mem_append_left _ some'
  have ends : ¬ ∀ b ∈ line.dropWhile (ascii "=").contains, (!(ascii "=").contains b) = true := fun each =>
    absurd (each 61 some') (by decide)
  have value : (line.dropWhile (ascii "=").contains).dropWhile (fun b => !(ascii "=").contains b) ≠ [] := fun none =>
    ends (dropWhile_eq_nil_iff.mp none)
  have name : ((line.dropWhile (ascii "=").contains).takeWhile fun b => !(ascii "=").contains b).length ≠
      (line.dropWhile (ascii "=").contains).length := by
    intro all
    have first := takeWhile_prefix (l := line.dropWhile (ascii "=").contains) fun b => !(ascii "=").contains b
    exact ends (takeWhile_eq_self_iff.mp (first.eq_of_length all))
  rw [strtokR_of_mem there, valueText, dropWhile_newline, takeWhile_append, if_neg name, dropWhile_append,
    isEmpty_eq_false_iff.mpr value, if_neg Bool.false_ne_true,
    drop_append_of_le_length (length_pos_iff.mpr value), valueText]

theorem takeWhile_noNul {line : Bytes} (noNul : 0 ∉ line) : line.takeWhile (· != 0) = line := by
  rw [takeWhile_eq_self_iff]
  intro b member
  rw [bne_iff_ne]
  rintro rfl
  exact noNul member

theorem configValueOf_of_not_mem {line : Bytes} (noNul : 0 ∉ line)
    (none' : 61 ∉ line.dropWhile (ascii "=").contains) : (configValueOf line : Option (LocParamV D)) = none := by
  rw [configValueOf, takeWhile_noNul noNul]
  cases token : strtokR (ascii "=") line with
  | none => rfl
  | some token' =>
    obtain ⟨name, lasts⟩ := token'
    rw [strtokR_of_not_mem none' name lasts token]
    rfl

/-- A line assigns the same with a newline after it when its value is not blank. -/
theorem configValueOf_newline {line : Bytes} (noNul : 0 ∉ line) (filled : Filled line) :
    (configValueOf (line ++ [10]) : Option (LocParamV D)) = configValueOf line := by
  have whole : 0 ∉ line ++ [10] := by simpa using noNul
  by_cases some' : 61 ∈ line.dropWhile (ascii "=").contains
  · have value := filled some'
    have begun : valueText line ≠ [] := by
      intro none
      rw [none] at value
      cases value
    have longer : valueText line ++ [10] ≠ [] := append_ne_nil_of_right_ne_nil _ (cons_ne_nil _ _)
    rw [configValueOf, configValueOf, takeWhile_noNul noNul, takeWhile_noNul whole, strtokR_newline some',
      strtokR_of_mem some']
    simp only [strtokR_of_ne begun, strtokR_of_ne longer, locUtilTrimSpace_newline value]
  · have neither : 61 ∉ (line ++ [10]).dropWhile (ascii "=").contains := by
      rw [dropWhile_newline]
      simpa using some'
    rw [configValueOf_of_not_mem noNul some', configValueOf_of_not_mem whole neither]

variable {configTable : List (LocParamS D)}

/-- Two lines assign the same. -/
def SameLine (stringLen : ℕ) (configTable : List (LocParamS D)) (line line' : Bytes) : Prop :=
  ∀ entry ∈ configTable, entry.assignedBy stringLen line = entry.assignedBy stringLen line'

theorem assigning_congr {lines lines' : List Bytes} (same : Forall₂ (SameLine stringLen configTable) lines lines') :
    Forall₂ (SameLine stringLen configTable) (assigning stringLen configTable lines)
      (assigning stringLen configTable lines') := by
  induction same with
  | nil => exact Forall₂.nil
  | @cons line line' lines lines' own rest ih =>
    have hit : assigns stringLen configTable line = assigns stringLen configTable line' := by
      rw [assigns, assigns, Bool.eq_iff_iff, any_eq_true, any_eq_true]
      exact exists_congr fun entry => and_congr_right fun member => by rw [own entry member]
    rw [assigning, assigning, filter_cons, filter_cons, hit]
    split_ifs
    · exact Forall₂.cons own ih
    · exact ih

/-- Lines that assign the same in turn leave the same. -/
theorem held_congr {lines lines' : List Bytes} (same : Forall₂ (SameLine stringLen configTable) lines lines')
    {entry : LocParamS D} (member : entry ∈ configTable) :
    entry.held stringLen lines = entry.held stringLen lines' := by
  rw [LocParamS.held, LocParamS.held]
  generalize entry.param = value
  induction same generalizing value with
  | nil => rfl
  | cons own rest ih => rw [foldl_cons, foldl_cons, own entry member, ih]

/-- With no blank value the lines that are read assign what the lines of the text assign. -/
theorem held_records (text : ConfText stringLen) (filled : ∀ line ∈ text.lines, Filled line) (n : ℕ)
    {entry : LocParamS D} (member : entry ∈ configTable) :
    entry.held stringLen ((assigning stringLen configTable text.records).take n) =
      entry.held stringLen ((assigning stringLen configTable (text.lines ++ [text.last])).take n) := by
  have last : assigning stringLen configTable [text.last] =
      assigning stringLen configTable (if text.last = [] then [] else [text.last]) := by
    split_ifs with none
    · rw [none, assigning, filter_cons_of_neg (by simp [assigns_nil])]
      rfl
    · rfl
  have each : ∀ line ∈ text.lines, SameLine stringLen configTable (line ++ [10]) line := by
    intro line there entry _
    rw [LocParamS.assignedBy, LocParamS.assignedBy,
      configValueOf_newline (text.noNul line (mem_append_left _ there)) (filled line there)]
  have same : Forall₂ (SameLine stringLen configTable) text.records
      (text.lines ++ if text.last = [] then [] else [text.last]) := by
    refine rel_append ?_ (forall₂_same.mpr fun _ _ _ _ => rfl)
    exact forall₂_map_left_iff.mpr (forall₂_same.mpr each)
  have lines : assigning stringLen configTable (text.lines ++ [text.last]) =
      assigning stringLen configTable (text.lines ++ if text.last = [] then [] else [text.last]) := by
    rw [assigning, filter_append, assigning, filter_append]
    exact congrArg _ last
  rw [lines]
  exact held_congr (forall₂_take n (assigning_congr same)) member

end Filled

/-- When no value is blank, updating and reading agree exactly when the last line that is read assigns its parameter
what it holds already. -/
theorem agree_iff_of_filled (text : ConfText stringLen) (configTable : LocParamTable D)
    (filled : ∀ line ∈ text.lines, Filled line) : Agree text configTable ↔
      ∀ line, (assigning stringLen configTable.entries (text.lines ++ [text.last]))[configTable.entries.length - 1]? =
        some line → ∀ entry ∈ configTable.entries, ∀ value, entry.assignedBy stringLen line = some value →
          entry.held stringLen ((assigning stringLen configTable.entries (text.lines ++ [text.last])).take
            (configTable.entries.length - 1)) = some value := by
  rw [Agree, update_values, read_values, map_inj_left]
  cases length : configTable.entries.length with
  | zero =>
    rw [length_eq_zero_iff] at length
    rw [length]
    exact iff_of_true nofun fun _ _ => nofun
  | succ n =>
    have step (entry : LocParamS D) (member : entry ∈ configTable.entries) :
        entry.held stringLen ((assigning stringLen configTable.entries text.records).take (n + 1)) =
          ((assigning stringLen configTable.entries (text.lines ++ [text.last]))[n]?.bind fun line =>
            entry.assignedBy stringLen line).or
              (entry.held stringLen ((assigning stringLen configTable.entries (text.lines ++ [text.last])).take
                n)) := by
      rw [held_records text filled (n + 1) member, take_add_one, LocParamS.held, foldl_append]
      cases (assigning stringLen configTable.entries (text.lines ++ [text.last]))[n]? <;> rfl
    rw [Nat.add_sub_cancel]
    constructor
    · intro same line place entry member value own
      rw [same entry member, step entry member, place, Option.bind_some, own, Option.some_or]
    · intro again entry member
      rw [step entry member]
      cases place : (assigning stringLen configTable.entries (text.lines ++ [text.last]))[n]? with
      | none => rfl
      | some line =>
        rw [Option.bind_some]
        cases own : entry.assignedBy stringLen line with
        | none => rfl
        | some value => exact again line place entry member value own

end Cypfr.LocCfg
