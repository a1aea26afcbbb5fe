import Cypfr.Model.LocCfg
import Cypfr.ToMathlib.UntilCount
import Mathlib.Data.List.Nodup
import Mathlib.Data.List.TakeWhile

/-! # The lines that are read

The loops over a file and over a text take the lines up to a number of assigning ones, and each parameter is left with
what the last of them assigns to it.
-/

namespace Cypfr.LocCfg

open List

section Lines

/-- The lines of a file as they are read: each but the last one ends with a newline, or with the room for it. -/
inductive Records (size : ℕ) : List Bytes → Prop
  | nil : Records size []
  | full {line : Bytes} {records : List Bytes} (some' : line ≠ []) (noNewline : 10 ∉ line)
      (long : line.length + 1 = size) (rest : Records size records) : Records size (line :: records)
  | last {line : Bytes} (some' : line ≠ []) (noNewline : 10 ∉ line) (short : line.length + 1 ≤ size) :
      Records size [line]
  | line {line : Bytes} {records : List Bytes} (noNewline : 10 ∉ line) (short : line.length + 2 ≤ size)
      (rest : Records size records) : Records size ((line ++ [10]) :: records)

theorem takeLine_of_line {room : ℕ} {line : Bytes} (noNewline : 10 ∉ line) (short : line.length + 1 ≤ room)
    (rest : Bytes) : takeLine room (line ++ 10 :: rest) = (line ++ [10], rest) := by
  induction line generalizing room with
  | nil =>
    obtain ⟨room, rfl⟩ := Nat.exists_eq_add_of_le' (show 1 ≤ room by simpa using short)
    rfl
  | cons b line ih =>
    rw [length_cons] at short
    obtain ⟨room, rfl⟩ := Nat.exists_eq_add_of_le' (show 1 ≤ room by omega)
    rw [mem_cons, not_or] at noNewline
    rw [cons_append, takeLine, if_neg (Ne.symm noNewline.1), ih noNewline.2 (by omega)]
    rfl

theorem takeLine_of_last {room : ℕ} {line : Bytes} (noNewline : 10 ∉ line) (short : line.length ≤ room) :
    takeLine room line = (line, []) := by
  induction line generalizing room with
  | nil => cases room <;> rfl
  | cons b line ih =>
    rw [length_cons] at short
    obtain ⟨room, rfl⟩ := Nat.exists_eq_add_of_le' (show 1 ≤ room by omega)
    rw [mem_cons, not_or] at noNewline
    rw [takeLine, if_neg (Ne.symm noNewline.1), ih noNewline.2 (by omega)]

theorem takeLine_of_full {line : Bytes} (noNewline : 10 ∉ line) (rest : Bytes) :
    takeLine line.length (line ++ rest) = (line, rest) := by
  induction line with
  | nil => rfl
  | cons b line ih =>
    rw [mem_cons, not_or] at noNewline
    rw [length_cons, cons_append, takeLine, if_neg (Ne.symm noNewline.1), ih noNewline.2]

/-- A file is read line by line. -/
theorem fgets_flatten {size : ℕ} {record : Bytes} {records : List Bytes} (lines : Records size (record :: records)) :
    fgets size (record :: records).flatten = some (record, records.flatten) ∧ Records size records := by
  cases lines with
  | full some' noNewline long rest =>
    rw [flatten_cons, fgets, if_neg (append_ne_nil_of_left_ne_nil some' _), ← long, Nat.add_sub_cancel,
      takeLine_of_full noNewline]
    exact ⟨rfl, long ▸ rest⟩
  | last some' noNewline short =>
    rw [flatten_cons, flatten_nil, append_nil, fgets, if_neg some', takeLine_of_last noNewline (by omega)]
    exact ⟨rfl, Records.nil⟩
  | line noNewline short rest =>
    rw [flatten_cons, append_assoc, singleton_append, fgets, if_neg (append_ne_nil_of_right_ne_nil _ (cons_ne_nil _ _)),
      takeLine_of_line noNewline (by omega)]
    exact ⟨rfl, rest⟩

theorem Records.of_suffix {size : ℕ} {records later : List Bytes} (lines : Records size records)
    (suffix : later <:+ records) : Records size later := by
  obtain ⟨before, rfl⟩ := suffix
  induction before with
  | nil => exact lines
  | cons record before ih => exact ih (fgets_flatten lines).2

theorem Records.length_le {size : ℕ} {records : List Bytes} (lines : Records size records) :
    records.length ≤ records.flatten.length := by
  induction lines with
  | nil => exact Nat.le_refl _
  | full some' noNewline long rest ih =>
    have own := length_pos_iff.mpr some'
    rw [flatten_cons, length_append, length_cons]
    omega
  | last some' noNewline short =>
    rw [flatten_cons, flatten_nil, append_nil]
    exact length_pos_iff.mpr some'
  | line noNewline short rest ih =>
    rw [flatten_cons, length_append, length_append, length_singleton, length_cons]
    omega

end Lines

section Fill

variable {D : Type}

namespace LocParamS

/-- What a value is for a parameter, if it is one for it. -/
def valueOf (entry : LocParamS D) (configValue : LocParamV D) (stringLen : ℕ) : Option (ParamValue D) :=
  if entry.paramName = configValue.paramName ∧ entry.param.isSome = true then
    match entry.paramType with
    | 's' =>
      some (.string (if configValue.paramStrValue = ascii "NULL" then [] else
        strlcpy configValue.paramStrValue stringLen))
    | 'n' => some (.number configValue.paramIntValue)
    | 'f' => some (.double configValue.paramDoubleValue)
    | _ => none
  else none

theorem locSetConfigEntry_eq (entry : LocParamS D) (configValue : LocParamV D) (stringLen : ℕ) :
    locSetConfigEntry entry configValue stringLen = (entry.valueOf configValue stringLen).map fun value =>
      { entry with param := some value, paramSet := entry.paramSet.map fun _ => 1 } := by
  rw [locSetConfigEntry, valueOf]
  by_cases own : entry.paramName = configValue.paramName ∧ entry.param.isSome = true
  · rw [if_pos own, if_pos own]
    generalize entry.paramType = type
    by_cases string : type = 's'
    · rw [string]
      rfl
    by_cases number : type = 'n'
    · rw [number]
      rfl
    by_cases double : type = 'f'
    · rw [double]
      rfl
    simp
  · rw [if_neg own, if_neg own]
    rfl

variable [CDouble D]

/-- What a line assigns to a parameter. -/
def assignedBy (stringLen : ℕ) (line : Bytes) (entry : LocParamS D) : Option (ParamValue D) :=
  (configValueOf line).bind fun configValue => entry.valueOf configValue stringLen

/-- A parameter after a line. -/
def fill (stringLen : ℕ) (line : Bytes) (entry : LocParamS D) : LocParamS D :=
  match entry.assignedBy stringLen line with
  | some value => { entry with param := some value, paramSet := entry.paramSet.map fun _ => 1 }
  | none => entry

/-- A parameter after lines. -/
def fillAll (stringLen : ℕ) (lines : List Bytes) (entry : LocParamS D) : LocParamS D :=
  lines.foldl (fun entry line => entry.fill stringLen line) entry

/-- What the last line that assigns a parameter leaves in it. -/
def held (stringLen : ℕ) (lines : List Bytes) (entry : LocParamS D) : Option (ParamValue D) :=
  lines.foldl (fun value line => (entry.assignedBy stringLen line).or value) entry.param

variable {stringLen : ℕ} {line : Bytes} {entry other : LocParamS D}

/-- Two entries that differ in what they hold are assigned the same. -/
theorem assignedBy_congr (name : entry.paramName = other.paramName) (type : entry.paramType = other.paramType)
    (pointed : entry.param.isSome = other.param.isSome) :
    entry.assignedBy stringLen line = other.assignedBy stringLen line := by
  rw [assignedBy, assignedBy]
  congr 1
  funext configValue
  rw [valueOf, valueOf, name, type, pointed]

theorem isSome_of_assignedBy {value : ParamValue D} (own : entry.assignedBy stringLen line = some value) :
    entry.param.isSome = true := by
  obtain ⟨configValue, -, own⟩ := Option.bind_eq_some_iff.mp own
  rw [valueOf] at own
  by_contra null
  rw [if_neg fun both => null both.2] at own
  cases own

theorem paramName_fill : (entry.fill stringLen line).paramName = entry.paramName := by
  rw [fill]
  split <;> rfl

theorem paramType_fill : (entry.fill stringLen line).paramType = entry.paramType := by
  rw [fill]
  split <;> rfl

theorem param_fill : (entry.fill stringLen line).param = (entry.assignedBy stringLen line).or entry.param := by
  rw [fill]
  cases entry.assignedBy stringLen line <;> rfl

theorem isSome_param_fill : (entry.fill stringLen line).param.isSome = entry.param.isSome := by
  rw [param_fill]
  cases own : entry.assignedBy stringLen line with
  | none => rfl
  | some value => exact (isSome_of_assignedBy own).symm

theorem assignedBy_fill (later : Bytes) :
    (entry.fill stringLen line).assignedBy stringLen later = entry.assignedBy stringLen later :=
  assignedBy_congr paramName_fill paramType_fill isSome_param_fill

theorem fillAll_cons (lines : List Bytes) :
    entry.fillAll stringLen (line :: lines) = (entry.fill stringLen line).fillAll stringLen lines := rfl

/-- Lines that do not assign a parameter leave it. -/
theorem fillAll_of_none {lines : List Bytes} (none : ∀ line ∈ lines, entry.assignedBy stringLen line = none) :
    entry.fillAll stringLen lines = entry := by
  induction lines with
  | nil => rfl
  | cons line lines ih =>
    have same : entry.fill stringLen line = entry := by
      rw [fill, none line mem_cons_self]
    rw [fillAll_cons, same, ih fun line member => none line (mem_cons_of_mem _ member)]

/-- The value of a parameter after lines is what the last of them that assigns it leaves. -/
theorem param_fillAll (lines : List Bytes) : (entry.fillAll stringLen lines).param = entry.held stringLen lines := by
  induction lines generalizing entry with
  | nil => rfl
  | cons line lines ih =>
    rw [fillAll_cons, ih, held, held, foldl_cons, param_fill]
    congr 1
    funext value later
    rw [assignedBy_fill]

/-- Lines that do not assign a parameter make no difference to it. -/
theorem held_filter {lines : List Bytes} {p : Bytes → Bool}
    (none : ∀ line ∈ lines, p line = false → entry.assignedBy stringLen line = none) :
    entry.held stringLen (lines.filter p) = entry.held stringLen lines := by
  rw [held, held]
  induction lines using List.reverseRecOn with
  | nil => rfl
  | append_singleton lines line ih =>
    have before := ih fun line member => none line (mem_append_left _ member)
    rw [filter_append, foldl_append, foldl_append, before]
    cases own : p line with
    | true =>
      have kept : [line].filter p = [line] := by simp [own]
      rw [kept]
    | false =>
      have dropped : [line].filter p = [] := by simp [own]
      rw [dropped, foldl_nil, foldl_cons, foldl_nil, none line (mem_append_right _ (mem_singleton_self line)) own]
      rfl

theorem held_concat (lines : List Bytes) (line : Bytes) :
    entry.held stringLen (lines ++ [line]) = (entry.assignedBy stringLen line).or (entry.held stringLen lines) := by
  rw [held, foldl_append]
  rfl

/-- A parameter holds what some line assigns to it, or what it held before if none does. -/
theorem held_cases (stringLen : ℕ) (lines : List Bytes) :
    (∃ line ∈ lines, (entry.assignedBy stringLen line).isSome = true ∧
        entry.held stringLen lines = entry.assignedBy stringLen line) ∨
      (∀ line ∈ lines, entry.assignedBy stringLen line = none) ∧ entry.held stringLen lines = entry.param := by
  induction lines using List.reverseRecOn with
  | nil => exact Or.inr ⟨nofun, rfl⟩
  | append_singleton lines line ih =>
    cases own : entry.assignedBy stringLen line with
    | some value =>
      left
      refine ⟨line, mem_append_right _ (mem_singleton_self line), ?_, ?_⟩
      · rw [own, Option.isSome_some]
      · rw [held_concat, own, Option.some_or]
    | none =>
      rw [held_concat, own, Option.none_or]
      obtain ⟨earlier, member, assigned⟩ | ⟨unset, same⟩ := ih
      · exact Or.inl ⟨earlier, mem_append_left _ member, assigned⟩
      · refine Or.inr ⟨fun other member => ?_, same⟩
        obtain member | rfl := by simpa using member
        · exact unset other member
        · exact own

theorem fill_of_unmarked (unmarked : entry.paramSet = none) (line : Bytes) :
    entry.fill stringLen line = { entry with param := (entry.assignedBy stringLen line).or entry.param } := by
  rw [fill]
  cases entry.assignedBy stringLen line with
  | none => rfl
  | some value =>
    simp only [unmarked, Option.map_none]
    rfl

/-- Lines change what a parameter without a mark holds, and nothing else of it. -/
theorem fillAll_of_unmarked (unmarked : entry.paramSet = none) (lines : List Bytes) :
    entry.fillAll stringLen lines = { entry with param := entry.held stringLen lines } := by
  induction lines using List.reverseRecOn with
  | nil => rfl
  | append_singleton lines line ih =>
    have pointed : (entry.held stringLen lines).isSome = entry.param.isSome := by
      obtain ⟨earlier, -, assigned, same⟩ | ⟨-, same⟩ := entry.held_cases stringLen lines
      · obtain ⟨value, own⟩ := Option.isSome_iff_exists.mp assigned
        rw [same, assigned, isSome_of_assignedBy own]
      · rw [same]
    have last : entry.fillAll stringLen (lines ++ [line]) = (entry.fillAll stringLen lines).fill stringLen line := by
      rw [fillAll, foldl_append]
      rfl
    have own : ({ entry with param := entry.held stringLen lines } : LocParamS D).assignedBy stringLen line =
        entry.assignedBy stringLen line := assignedBy_congr rfl rfl pointed
    rw [last, ih, fill_of_unmarked (by exact unmarked), held_concat, own]

/-- Two entries without marks that may differ in what they hold. -/
structure Alike (entry other : LocParamS D) : Prop where
  name : entry.paramName = other.paramName
  type : entry.paramType = other.paramType
  pointed : entry.param.isSome = other.param.isSome
  unmarked : entry.paramSet = none
  unmarked' : other.paramSet = none

theorem Alike.assignedBy (alike : Alike entry other) (line : Bytes) :
    entry.assignedBy stringLen line = other.assignedBy stringLen line :=
  assignedBy_congr alike.name alike.type alike.pointed

theorem Alike.fillAll (alike : Alike entry other) {lines lines' : List Bytes}
    (same : entry.held stringLen lines = other.held stringLen lines') :
    entry.fillAll stringLen lines = other.fillAll stringLen lines' := by
  rw [fillAll_of_unmarked alike.unmarked, fillAll_of_unmarked alike.unmarked', same, alike.name, alike.type,
    alike.unmarked, alike.unmarked']

/-- What a parameter held before makes no difference when some line assigns it. -/
theorem Alike.held (alike : Alike entry other) {lines : List Bytes}
    (given : ∃ line ∈ lines, (other.assignedBy stringLen line).isSome = true) :
    entry.held stringLen lines = other.held stringLen lines := by
  induction lines using List.reverseRecOn with
  | nil =>
    obtain ⟨line, member, -⟩ := given
    cases member
  | append_singleton lines line ih =>
    rw [held_concat, held_concat, alike.assignedBy]
    cases own : other.assignedBy stringLen line with
    | some value => rfl
    | none =>
      rw [ih]
      obtain ⟨earlier, member, assigned⟩ := given
      obtain member | rfl := by simpa using member
      · exact ⟨earlier, member, assigned⟩
      · rw [own] at assigned
        cases assigned

/-- The order of the lines makes no difference when one at most assigns a parameter. -/
theorem held_perm {lines lines' : List Bytes} (perm : lines.Perm lines')
    (once : (lines.countP fun line => (entry.assignedBy stringLen line).isSome) ≤ 1) :
    entry.held stringLen lines = entry.held stringLen lines' := by
  obtain ⟨line, member, assigned, same⟩ | ⟨unset, same⟩ := entry.held_cases stringLen lines
  · obtain ⟨line', member', assigned', same'⟩ | ⟨unset', -⟩ := entry.held_cases stringLen lines'
    · have one : line = line' := by
        rw [countP_eq_length_filter] at once
        have hit : line ∈ lines.filter fun line => (entry.assignedBy stringLen line).isSome :=
          mem_filter.mpr ⟨member, assigned⟩
        have hit' : line' ∈ lines.filter fun line => (entry.assignedBy stringLen line).isSome :=
          mem_filter.mpr ⟨perm.mem_iff.mpr member', assigned'⟩
        obtain none | single := Nat.le_one_iff_eq_zero_or_eq_one.mp once
        · rw [length_eq_zero_iff.mp none] at hit
          cases hit
        · obtain ⟨only, single⟩ := length_eq_one_iff.mp single
          rw [single, mem_singleton] at hit hit'
          rw [hit, hit']
      rw [same, same', one]
    · rw [unset' line (perm.mem_iff.mp member)] at assigned
      cases assigned
  · obtain ⟨line', member', assigned', -⟩ | ⟨-, same'⟩ := entry.held_cases stringLen lines'
    · rw [unset line' (perm.mem_iff.mpr member')] at assigned'
      cases assigned'
    · rw [same, same']

/-- Two parameters that one line assigns have one name. -/
theorem paramName_eq (own : (entry.assignedBy stringLen line).isSome = true)
    (own' : (other.assignedBy stringLen line).isSome = true) : entry.paramName = other.paramName := by
  have named {entry : LocParamS D} (own : (entry.assignedBy stringLen line).isSome = true) :
      (configValueOf line : Option (LocParamV D)).map (·.paramName) = some entry.paramName := by
    obtain ⟨value, own⟩ := Option.isSome_iff_exists.mp own
    obtain ⟨configValue, parsed, own⟩ := Option.bind_eq_some_iff.mp own
    rw [valueOf] at own
    by_cases both : entry.paramName = configValue.paramName ∧ entry.param.isSome = true
    · rw [parsed, Option.map_some, both.1]
    · rw [if_neg both] at own
      cases own
  exact Option.some_inj.mp ((named own).symm.trans (named own'))

end LocParamS

variable [CDouble D]

/-- A line assigns a parameter of a table. -/
def assigns (stringLen : ℕ) (configTable : List (LocParamS D)) (line : Bytes) : Bool :=
  configTable.any fun entry => (entry.assignedBy stringLen line).isSome

variable {stringLen : ℕ} {configTable : List (LocParamS D)}

theorem assignedBy_of_not_assigns {line : Bytes} (other : assigns stringLen configTable line = false)
    {entry : LocParamS D} (member : entry ∈ configTable) : entry.assignedBy stringLen line = none := by
  rw [assigns, any_eq_false] at other
  exact Option.not_isSome_iff_eq_none.mp (other entry member)

theorem assigns_map_fill (line : Bytes) :
    assigns stringLen (configTable.map (LocParamS.fill stringLen line)) = assigns stringLen configTable := by
  funext later
  rw [assigns, any_map, assigns]
  congr 1
  funext entry
  rw [Function.comp_apply, LocParamS.assignedBy_fill]

theorem map_paramName_fill (line : Bytes) :
    (configTable.map (LocParamS.fill stringLen line)).map (·.paramName) = configTable.map (·.paramName) := by
  rw [map_map]
  apply map_congr_left
  intro entry _
  exact LocParamS.paramName_fill

/-- A line sets the entries that it assigns. -/
theorem locFillConfItem_eq (line : Bytes) (configTable : List (LocParamS D)) (stringLen : ℕ) :
    locFillConfItem line configTable stringLen = (configTable.map (LocParamS.fill stringLen line),
      UInt32.ofNat (configTable.countP fun entry => (entry.assignedBy stringLen line).isSome)) := by
  rw [locFillConfItem]
  cases parsed : (configValueOf line : Option (LocParamV D)) with
  | none =>
    have unset (entry : LocParamS D) : entry.assignedBy stringLen line = none := by
      rw [LocParamS.assignedBy, parsed]
      rfl
    have same : configTable.map (LocParamS.fill stringLen line) = configTable := by
      refine (map_congr_left fun entry _ => ?_).trans (map_id configTable)
      rw [LocParamS.fill, unset, id]
    have zero : (configTable.countP fun entry => (entry.assignedBy stringLen line).isSome) = 0 := by
      simp [unset]
    rw [same, zero]
    rfl
  | some configValue =>
    have own (entry : LocParamS D) :
        entry.assignedBy stringLen line = entry.valueOf configValue stringLen := by
      rw [LocParamS.assignedBy, parsed]
      rfl
    refine Prod.ext ?_ ?_
    · apply map_congr_left
      intro entry _
      rw [LocParamS.locSetConfigEntry_eq, LocParamS.fill, own]
      cases entry.valueOf configValue stringLen <;> rfl
    · refine congrArg UInt32.ofNat (countP_congr fun entry _ => ?_)
      rw [LocParamS.locSetConfigEntry_eq, own, Option.isSome_map]

/-- A line assigns one entry at most when their names differ. -/
theorem countP_assignedBy (distinct : (configTable.map (·.paramName)).Nodup) (line : Bytes) :
    (configTable.countP fun entry => (entry.assignedBy stringLen line).isSome) =
      if assigns stringLen configTable line then 1 else 0 := by
  have most : (configTable.countP fun entry => (entry.assignedBy stringLen line).isSome) ≤ 1 := by
    cases parsed : (configValueOf line : Option (LocParamV D)) with
    | none => simp [LocParamS.assignedBy, parsed]
    | some configValue =>
      have named := nodup_iff_count_le_one.mp distinct configValue.paramName
      rw [count_eq_countP, countP_map] at named
      refine Nat.le_trans (countP_mono_left fun entry _ own => ?_) named
      rw [LocParamS.assignedBy, parsed, Option.bind_some, LocParamS.valueOf] at own
      by_contra different
      rw [if_neg fun both => different (beq_iff_eq.mpr both.1)] at own
      cases own
  split_ifs with own
  · rw [assigns, any_eq_true] at own
    have least := countP_pos_iff.mpr own
    omega
  · rw [countP_eq_zero]
    intro entry member own'
    exact own (any_eq_true.mpr ⟨entry, member, own'⟩)

theorem map_fillAll_nil (configTable : List (LocParamS D)) :
    configTable.map (LocParamS.fillAll stringLen []) = configTable := map_id configTable

theorem map_fillAll_cons (line : Bytes) (lines : List Bytes) (configTable : List (LocParamS D)) :
    configTable.map (LocParamS.fillAll stringLen (line :: lines)) =
      (configTable.map (LocParamS.fill stringLen line)).map (LocParamS.fillAll stringLen lines) := by
  rw [map_map]
  rfl

theorem ofNat_sub_hits {n : ℕ} (hit : Bool) :
    UInt32.ofNat (n + 1) - UInt32.ofNat (if hit then 1 else 0) = UInt32.ofNat (if hit then n else n + 1) := by
  cases hit with
  | true => rw [if_pos rfl, if_pos rfl, UInt32.ofNat_add, UInt32.add_sub_cancel]
  | false =>
    rw [if_neg Bool.false_ne_true, if_neg Bool.false_ne_true]
    exact UInt32.sub_zero _

theorem ofNat_succ_ne_zero {n : ℕ} (small : n + 1 < 2 ^ 32) : UInt32.ofNat (n + 1) ≠ 0 := by
  intro zero
  have value := congrArg UInt32.toNat zero
  rw [UInt32.toNat_ofNat', Nat.mod_eq_of_lt small] at value
  cases value

/-- The loop over a file takes the lines up to as many that assign as there are parameters left. -/
theorem readLoop_eq {records : List Bytes} (lines : Records stringLen records) (configTable : List (LocParamS D))
    (distinct : (configTable.map (·.paramName)).Nodup) (fuel n : ℕ) (enough : records.length ≤ fuel)
    (small : n < 2 ^ 32) :
    readLoop stringLen fuel (UInt32.ofNat n) records.flatten configTable =
      ((records.afterCount (assigns stringLen configTable) n).flatten,
        configTable.map (LocParamS.fillAll stringLen (records.untilCount (assigns stringLen configTable) n))) := by
  induction records generalizing configTable fuel n with
  | nil =>
    rw [afterCount_nil, untilCount_nil, map_fillAll_nil]
    cases fuel with
    | zero => rfl
    | succ fuel =>
      rw [readLoop]
      split_ifs <;> rfl
  | cons record records ih =>
    rw [length_cons] at enough
    obtain ⟨fuel, rfl⟩ := Nat.exists_eq_add_of_le' (show 1 ≤ fuel by omega)
    obtain ⟨line, rest⟩ := fgets_flatten lines
    cases n with
    | zero =>
      have done : UInt32.ofNat 0 = 0 := rfl
      rw [readLoop, if_pos done, untilCount, map_fillAll_nil]
      rfl
    | succ n =>
      have later := ih rest (configTable.map (LocParamS.fill stringLen record)) (by rwa [map_paramName_fill]) fuel
        (if assigns stringLen configTable record then n else n + 1) (by omega) (by split_ifs <;> omega)
      rw [readLoop, if_neg (ofNat_succ_ne_zero small), line]
      simp only [locFillConfItem_eq, countP_assignedBy distinct, ofNat_sub_hits]
      rw [later, assigns_map_fill, untilCount, afterCount, map_fillAll_cons]
      cases assigns stringLen configTable record <;> rfl

section Text

/-- The lines of a text, of which each but the last one ends with a newline. -/
def textOf (lines : List Bytes) (last : Bytes) : Bytes := lines.flatMap (· ++ [10]) ++ last

theorem textOf_cons (line : Bytes) (lines : List Bytes) (last : Bytes) :
    textOf (line :: lines) last = line ++ 10 :: textOf lines last := by
  rw [textOf, flatMap_cons, append_assoc, append_assoc]
  rfl

theorem not_contains_of_mem {line : Bytes} (noNewline : 10 ∉ line) : ∀ b ∈ line, (!([10] : Bytes).contains b) =
    true := by
  intro b member
  have other : b ≠ 10 := by
    rintro rfl
    exact noNewline member
  simp [other]

theorem dropWhile_newlines {line : Bytes} (some' : line ≠ []) (noNewline : 10 ∉ line) (rest : Bytes) :
    (line ++ rest).dropWhile ([10] : Bytes).contains = line ++ rest := by
  obtain ⟨b, line, rfl⟩ := exists_cons_of_ne_nil some'
  have own := not_contains_of_mem noNewline b mem_cons_self
  rw [Bool.not_eq_true'] at own
  exact dropWhile_cons_of_neg (by simp only [own, Bool.false_eq_true, not_false_eq_true])

theorem strtokR_of_line {line : Bytes} (some' : line ≠ []) (noNewline : 10 ∉ line) (rest : Bytes) :
    strtokR [10] (line ++ 10 :: rest) = some (line, rest) := by
  have each := not_contains_of_mem noNewline
  rw [strtokR, dropWhile_newlines some' noNewline, if_neg (append_ne_nil_of_right_ne_nil _ (cons_ne_nil _ _)),
    takeWhile_append_of_pos each, dropWhile_append_of_pos each]
  exact congrArg (fun token => some (token, rest)) (append_nil line)

theorem strtokR_of_last {line : Bytes} (some' : line ≠ []) (noNewline : 10 ∉ line) :
    strtokR [10] line = some (line, []) := by
  have each := not_contains_of_mem noNewline
  have own := dropWhile_newlines some' noNewline []
  rw [append_nil] at own
  rw [strtokR, own, if_neg some', takeWhile_eq_self_iff.mpr each, dropWhile_eq_nil_iff.mpr each]
  rfl

theorem updateLoop_nil (fuel : ℕ) (numParams : UInt32) (ret : Int32) (configTable : List (LocParamS D)) :
    (updateLoop stringLen fuel numParams [] ret configTable).2 = configTable := by
  cases fuel with
  | zero => rfl
  | succ fuel =>
    rw [updateLoop]
    split_ifs <;> rfl

theorem updateLoop_newline (fuel : ℕ) (numParams : UInt32) (rest : Bytes) (ret : Int32)
    (configTable : List (LocParamS D)) : updateLoop stringLen fuel numParams (10 :: rest) ret configTable =
      updateLoop stringLen fuel numParams rest ret configTable := by
  cases fuel <;> rfl

/-- The lines of a text that are not empty. -/
def tokensOf (lines : List Bytes) (last : Bytes) : List Bytes := (lines ++ [last]).filter (!·.isEmpty)

theorem tokensOf_cons_nil (lines : List Bytes) (last : Bytes) : tokensOf ([] :: lines) last = tokensOf lines last := rfl

theorem tokensOf_cons {line : Bytes} (some' : line ≠ []) (lines : List Bytes) (last : Bytes) :
    tokensOf (line :: lines) last = line :: tokensOf lines last := by
  rw [tokensOf, cons_append, filter_cons_of_pos (by simp [some']), tokensOf]

theorem tokensOf_nil {last : Bytes} (some' : last ≠ []) : tokensOf [] last = [last] := by
  rw [tokensOf, nil_append, filter_cons_of_pos (by simp [some']), filter_nil]

theorem length_tokensOf_le (lines : List Bytes) (last : Bytes) :
    (tokensOf lines last).length ≤ (textOf lines last).length := by
  induction lines with
  | nil =>
    cases last with
    | nil => exact Nat.le_refl _
    | cons b last =>
      rw [tokensOf_nil (cons_ne_nil b last)]
      exact Nat.succ_le_succ (Nat.zero_le _)
  | cons line lines ih =>
    rw [textOf_cons, length_append, length_cons]
    by_cases none : line = []
    · rw [none, tokensOf_cons_nil]
      omega
    · rw [tokensOf_cons none, length_cons]
      omega

/-- The loop over a text takes the lines that are not empty, up to as many that assign as there are parameters left. -/
theorem updateLoop_eq {lines : List Bytes} {last : Bytes} (noNewline : ∀ line ∈ lines ++ [last], 10 ∉ line)
    (configTable : List (LocParamS D)) (distinct : (configTable.map (·.paramName)).Nodup) (fuel n : ℕ)
    (enough : (tokensOf lines last).length ≤ fuel) (small : n < 2 ^ 32) (ret : Int32) :
    (updateLoop stringLen fuel (UInt32.ofNat n) (textOf lines last) ret configTable).2 =
      configTable.map (LocParamS.fillAll stringLen
        ((tokensOf lines last).untilCount (assigns stringLen configTable) n)) := by
  induction lines generalizing configTable fuel n ret with
  | nil =>
    have text : textOf [] last = last := rfl
    rw [text]
    by_cases none : last = []
    · rw [none, updateLoop_nil, show tokensOf [] [] = [] from rfl, untilCount_nil, map_fillAll_nil]
    · rw [tokensOf_nil none] at enough ⊢
      obtain ⟨fuel, rfl⟩ := Nat.exists_eq_add_of_le' (show 1 ≤ fuel from enough)
      cases n with
      | zero =>
        have done : UInt32.ofNat 0 = 0 := rfl
        rw [updateLoop, if_pos done, untilCount, map_fillAll_nil]
      | succ n =>
        rw [updateLoop, if_neg (ofNat_succ_ne_zero small),
          strtokR_of_last none (noNewline last (mem_singleton_self last))]
        simp only [updateLoop_nil, locFillConfItem_eq]
        rw [untilCount, map_fillAll_cons, untilCount_nil, untilCount_nil, ite_self, map_fillAll_nil]
  | cons line lines ih =>
    have others : ∀ line ∈ lines ++ [last], 10 ∉ line := fun line member => noNewline line (mem_cons_of_mem _ member)
    rw [textOf_cons]
    by_cases none : line = []
    · rw [none, tokensOf_cons_nil] at enough ⊢
      rw [nil_append, updateLoop_newline, ih others configTable distinct fuel n enough small]
    · rw [tokensOf_cons none] at enough ⊢
      rw [length_cons] at enough
      obtain ⟨fuel, rfl⟩ := Nat.exists_eq_add_of_le' (show 1 ≤ fuel by omega)
      cases n with
      | zero =>
        have done : UInt32.ofNat 0 = 0 := rfl
        rw [updateLoop, if_pos done, untilCount, map_fillAll_nil]
      | succ n =>
        have later := ih others (configTable.map (LocParamS.fill stringLen line)) (by rwa [map_paramName_fill]) fuel
          (if assigns stringLen configTable line then n else n + 1) (by omega) (by split_ifs <;> omega) (ret + 1)
        rw [updateLoop, if_neg (ofNat_succ_ne_zero small), strtokR_of_line none (noNewline line mem_cons_self)]
        simp only [locFillConfItem_eq, countP_assignedBy distinct, ofNat_sub_hits]
        rw [later, assigns_map_fill, untilCount, map_fillAll_cons]
        cases assigns stringLen configTable line <;> rfl

end Text

end Fill

/-- A table of parameters with different names. -/
structure LocParamTable (D : Type) where
  entries : List (LocParamS D)
  distinct : (entries.map (·.paramName)).Nodup
  length_lt : entries.length < 2 ^ 32

/-- A file with lines that are not too long, of which the last one may have no newline. -/
structure ConfFile (stringLen : ℕ) where
  lines : List Bytes
  last : Bytes
  noNewline : ∀ line ∈ lines ++ [last], 10 ∉ line
  short : ∀ line ∈ lines ++ [last], line.length + 2 ≤ stringLen

namespace ConfFile

variable {stringLen : ℕ} (file : ConfFile stringLen)

/-- All its bytes. -/
def bytes : Bytes := textOf file.lines file.last

/-- Its lines as they are read. -/
def records : List Bytes := file.lines.map (· ++ [10]) ++ if file.last = [] then [] else [file.last]

theorem bytes_eq : file.bytes = file.records.flatten := by
  rw [bytes, textOf, records, flatten_append, flatMap_def]
  congr 1
  split_ifs with none
  · exact none
  · rw [flatten_cons, flatten_nil, append_nil]

theorem records_spec : Records stringLen file.records := by
  have last : Records stringLen (if file.last = [] then [] else [file.last]) := by
    have member : file.last ∈ file.lines ++ [file.last] := mem_append_right _ (mem_singleton_self _)
    split_ifs with none
    · exact Records.nil
    · exact Records.last none (file.noNewline _ member) (by have short := file.short _ member; omega)
  have first : ∀ line ∈ file.lines, 10 ∉ line ∧ line.length + 2 ≤ stringLen := fun line member =>
    ⟨file.noNewline _ (mem_append_left _ member), file.short _ (mem_append_left _ member)⟩
  rw [records]
  generalize file.lines = lines at first
  induction lines with
  | nil => exact last
  | cons line lines ih =>
    obtain ⟨noNewline, short⟩ := first line mem_cons_self
    exact Records.line noNewline short (ih fun line member => first line (mem_cons_of_mem _ member))

end ConfFile

/-- A file without NUL. -/
structure ConfText (stringLen : ℕ) extends ConfFile stringLen where
  noNul : ∀ line ∈ lines ++ [last], 0 ∉ line

section Values

variable {D : Type} [CDouble D] {stringLen : ℕ}

/-- The lines that assign parameters of a table. -/
def assigning (stringLen : ℕ) (configTable : List (LocParamS D)) (lines : List Bytes) : List Bytes :=
  lines.filter (assigns stringLen configTable)

theorem held_untilCount {configTable : List (LocParamS D)} {entry : LocParamS D} (member : entry ∈ configTable) (n : ℕ)
    (lines : List Bytes) : entry.held stringLen (lines.untilCount (assigns stringLen configTable) n) =
      entry.held stringLen ((assigning stringLen configTable lines).take n) := by
  rw [assigning, ← filter_untilCount, LocParamS.held_filter]
  intro line _ other
  exact assignedBy_of_not_assigns other member

theorem assigns_nil (configTable : List (LocParamS D)) : assigns stringLen configTable [] = false := by
  rw [assigns, any_eq_false]
  intro entry _
  exact Bool.false_ne_true

theorem assigning_tokensOf (configTable : List (LocParamS D)) (lines : List Bytes) (last : Bytes) :
    assigning stringLen configTable (tokensOf lines last) = assigning stringLen configTable (lines ++ [last]) := by
  rw [assigning, tokensOf, filter_filter, assigning]
  apply filter_congr
  intro line _
  cases line with
  | nil => rw [assigns_nil]; rfl
  | cons b line => exact Bool.and_true _

/-- A parameter is marked as not set. -/
def LocParamS.clear (entry : LocParamS D) : LocParamS D := { entry with paramSet := entry.paramSet.map fun _ => 0 }

theorem held_clear (entry : LocParamS D) (lines : List Bytes) :
    entry.clear.held stringLen lines = entry.held stringLen lines := rfl

theorem assigns_map_clear (configTable : List (LocParamS D)) :
    assigns stringLen (configTable.map LocParamS.clear) = assigns stringLen configTable := by
  funext line
  rw [assigns, any_map]
  rfl

/-- Reading a file takes its lines up to as many that assign as there are parameters. -/
theorem locReadConfRLong_eq {records : List Bytes} (lines : Records stringLen records) (configTable : LocParamTable D) :
    locReadConfRLong records.flatten configTable.entries stringLen =
      ((records.afterCount (assigns stringLen configTable.entries) configTable.entries.length).flatten,
        (configTable.entries.map LocParamS.clear).map (LocParamS.fillAll stringLen
          (records.untilCount (assigns stringLen configTable.entries) configTable.entries.length))) := by
  have distinct : ((configTable.entries.map LocParamS.clear).map (·.paramName)).Nodup := by
    rw [map_map]
    exact configTable.distinct
  have loop := readLoop_eq lines _ distinct _ _ lines.length_le configTable.length_lt
  rw [assigns_map_clear] at loop
  exact loop

/-- Reading a file leaves in each parameter what the last of the first lines that assign leaves in it. -/
theorem read_values (configTable : LocParamTable D) (file : ConfFile stringLen) :
    (locReadConfRLong file.bytes configTable.entries stringLen).2.map (·.param) =
      configTable.entries.map (LocParamS.held stringLen
        ((assigning stringLen configTable.entries file.records).take configTable.entries.length)) := by
  rw [file.bytes_eq, locReadConfRLong_eq file.records_spec, map_map, map_map]
  apply map_congr_left
  intro entry member
  rw [← held_untilCount member, Function.comp_apply, Function.comp_apply, LocParamS.param_fillAll, held_clear]

theorem textOf_noNul {lines : List Bytes} {last : Bytes} (noNul : ∀ line ∈ lines ++ [last], 0 ∉ line) :
    (textOf lines last).takeWhile (· != 0) = textOf lines last := by
  rw [takeWhile_eq_self_iff]
  intro b member
  rw [bne_iff_ne]
  rintro rfl
  obtain inside | inside := mem_append.mp member
  · obtain ⟨line, there, own⟩ := mem_flatMap.mp inside
    obtain own | newline := mem_append.mp own
    · exact noNul line (mem_append_left _ there) own
    · exact absurd (mem_singleton.mp newline) (by decide)
  · exact noNul last (mem_append_right _ (mem_singleton_self _)) inside

theorem map_held_nil (configTable : List (LocParamS D)) :
    configTable.map (LocParamS.held stringLen []) = configTable.map (·.param) := rfl

/-- Updating from a text does so with one line less, and with the lines without their newlines. -/
theorem update_values (configTable : LocParamTable D) (text : ConfText stringLen) :
    (locUpdateConfLong text.bytes configTable.entries stringLen).2.map (·.param) =
      configTable.entries.map (LocParamS.held stringLen
        ((assigning stringLen configTable.entries (text.lines ++ [text.last])).take
          (configTable.entries.length - 1))) := by
  have small := configTable.length_lt
  rw [locUpdateConfLong, ConfFile.bytes, ← assigning_tokensOf]
  by_cases none : textOf text.lines text.last = [] ∨ configTable.entries = []
  · rw [if_pos none]
    obtain none | none := none
    · have tokens := length_tokensOf_le text.lines text.last
      rw [none, length_nil, Nat.le_zero, length_eq_zero_iff] at tokens
      rw [tokens, assigning, filter_nil, take_nil, map_held_nil]
    · rw [none]
      rfl
  · rw [not_or] at none
    obtain ⟨n, length⟩ := Nat.exists_eq_add_of_le' (length_pos_iff.mpr none.2)
    have one : UInt32.ofNat configTable.entries.length - 1 = UInt32.ofNat (configTable.entries.length - 1) := by
      rw [length, UInt32.ofNat_add]
      exact UInt32.add_sub_cancel _ _
    rw [if_neg (not_or.mpr none), textOf_noNul text.noNul, one, updateLoop_eq text.noNewline _ configTable.distinct _ _
      (length_tokensOf_le _ _) (by omega), map_map]
    apply map_congr_left
    intro entry member
    rw [← held_untilCount member, Function.comp_apply, LocParamS.param_fillAll]

end Values

end Cypfr.LocCfg
