import Cypfr.Model.CNumber

/-! # Reading configuration

`gps/utils/loc_cfg.cpp`: the lines of a file or of a text assign values to the parameters of a table, as long as not
enough of them have been assigned.
-/

namespace Cypfr.LocCfg

/-- `double`, of which only zero and `atof` are used. -/
class CDouble (D : Type) where
  zero : D
  atof : Bytes → D

/-- Whole numbers as doubles. -/
instance : CDouble ℤ where
  zero := 0
  atof s := (strtol 10 s).toInt

/-- What a parameter holds. -/
inductive ParamValue (D : Type) where
  | string (s : Bytes)
  | number (n : Int32)
  | double (d : D)
  deriving DecidableEq

/-- `loc_param_s_type`: what `param_ptr` and `param_set` point to, unless they are null. -/
structure LocParamS (D : Type) where
  paramName : Bytes
  param : Option (ParamValue D)
  paramSet : Option UInt8
  paramType : Char

/-- `loc_param_v_type`. -/
structure LocParamV (D : Type) where
  paramName : Bytes
  paramStrValue : Bytes
  paramIntValue : Int32
  paramDoubleValue : D

/-- `strtok_r`: the token and what is left. -/
def strtokR (delim s : Bytes) : Option (Bytes × Bytes) :=
  let s := s.dropWhile delim.contains
  if s = [] then none
  else some (s.takeWhile fun b => !delim.contains b, (s.dropWhile fun b => !delim.contains b).drop 1)

/-- `loc_util_trim_space`, which leaves a string of spaces as it is. -/
def locUtilTrimSpace (s : Bytes) : Bytes :=
  if s.all isSpace then s else ((s.dropWhile isSpace).reverse.dropWhile isSpace).reverse

variable {D : Type} [CDouble D]

/-- `loc_set_config_entry`: the entry that is set. -/
def locSetConfigEntry (configEntry : LocParamS D) (configValue : LocParamV D) (stringLen : ℕ) : Option (LocParamS D) :=
  let set (value : ParamValue D) : LocParamS D :=
    { configEntry with param := some value, paramSet := configEntry.paramSet.map fun _ => 1 }
  if configEntry.paramName = configValue.paramName ∧ configEntry.param.isSome = true then
    match configEntry.paramType with
    | 's' =>
      some (set (.string (if configValue.paramStrValue = ascii "NULL" then [] else
        strlcpy configValue.paramStrValue stringLen)))
    | 'n' => some (set (.number configValue.paramIntValue))
    | 'f' => some (set (.double configValue.paramDoubleValue))
    | _ => none
  else none

/-- The number of a string in base 16 after `0x`, or in base ten. -/
def paramNumbers (s : Bytes) : Int32 × D :=
  if 3 ≤ s.length ∧ s.headD 0 = 48 ∧ (s.tail.headD 0 = 120 ∨ s.tail.headD 0 = 88) then
    ((strtol 16 (s.drop 2)).toInt32, CDouble.zero)
  else (atoi s, CDouble.atof s)

/-- The name and the value that `loc_fill_conf_item` finds in a line. -/
def configValueOf (inputBuf : Bytes) : Option (LocParamV D) :=
  match strtokR (ascii "=") (inputBuf.takeWhile (· != 0)) with
  | some (name, lasts) =>
    match strtokR [] lasts with
    | some (value, _) =>
      let numbers : Int32 × D := paramNumbers (locUtilTrimSpace value)
      some ⟨locUtilTrimSpace name, locUtilTrimSpace value, numbers.1, numbers.2⟩
    | none => none
  | none => none

/-- `loc_fill_conf_item`: the table and the number of entries that are set. -/
def locFillConfItem (inputBuf : Bytes) (configTable : List (LocParamS D)) (stringLen : ℕ) :
    List (LocParamS D) × UInt32 :=
  match (configValueOf inputBuf : Option (LocParamV D)) with
  | some configValue =>
    (configTable.map fun entry => (locSetConfigEntry entry configValue stringLen).getD entry,
      UInt32.ofNat (configTable.countP fun entry => (locSetConfigEntry entry configValue stringLen).isSome))
  | none => (configTable, 0)

/-- The next bytes up to a newline, as many as there is room for. -/
def takeLine : ℕ → Bytes → Bytes × Bytes
  | 0, file => ([], file)
  | _ + 1, [] => ([], [])
  | room + 1, b :: rest =>
    if b = 10 then ([b], rest)
    else
      let line := takeLine room rest
      (b :: line.1, line.2)

/-- `fgets`: the line and what is left of the file. -/
def fgets (size : ℕ) (file : Bytes) : Option (Bytes × Bytes) :=
  if file = [] then none else some (takeLine (size - 1) file)

/-- The loop of `loc_read_conf_r_long`, with at most `fuel` lines. -/
def readLoop (stringLen : ℕ) : ℕ → UInt32 → Bytes → List (LocParamS D) → Bytes × List (LocParamS D)
  | 0, _, file, configTable => (file, configTable)
  | fuel + 1, numParams, file, configTable =>
    if numParams = 0 then (file, configTable)
    else
      match fgets stringLen file with
      | some (inputBuf, file) =>
        let filled := locFillConfItem inputBuf configTable stringLen
        readLoop stringLen fuel (numParams - filled.2) file filled.1
      | none => (file, configTable)

/-- `loc_read_conf_r_long` on an open file, of which each line takes a byte at least: what is left of it and the
table. -/
def locReadConfRLong (confFp : Bytes) (configTable : List (LocParamS D)) (stringLen : ℕ) :
    Bytes × List (LocParamS D) :=
  let cleared := configTable.map fun entry => { entry with paramSet := entry.paramSet.map fun _ => 0 }
  readLoop stringLen confFp.length (UInt32.ofNat configTable.length) confFp cleared

/-- The loop of `loc_update_conf_long`, with at most `fuel` lines. -/
def updateLoop (stringLen : ℕ) : ℕ → UInt32 → Bytes → Int32 → List (LocParamS D) → Int32 × List (LocParamS D)
  | 0, _, _, ret, configTable => (ret, configTable)
  | fuel + 1, numParams, saveptr, ret, configTable =>
    if numParams = 0 then (ret, configTable)
    else
      match strtokR [10] saveptr with
      | some (inputBuf, saveptr) =>
        let filled := locFillConfItem inputBuf configTable stringLen
        updateLoop stringLen fuel (numParams - filled.2) saveptr (ret + 1) filled.1
      | none => (ret, configTable)

/-- `loc_update_conf_long`: what it returns and the table. -/
def locUpdateConfLong (confData : Bytes) (configTable : List (LocParamS D)) (stringLen : ℕ) :
    Int32 × List (LocParamS D) :=
  if confData = [] ∨ configTable = [] then (-1, configTable)
  else
    updateLoop stringLen confData.length (UInt32.ofNat configTable.length - 1) (confData.takeWhile (· != 0)) 0
      configTable

/-- `loc_param_table` as it is at first. -/
def locParamTable : List (LocParamS D) :=
  [⟨ascii "DEBUG_LEVEL", some (.number 0xff), none, 'n'⟩, ⟨ascii "TIMESTAMP", some (.number 0), none, 'n'⟩,
    ⟨ascii "DATUM_TYPE", some (.number 0), none, 'n'⟩, ⟨ascii "LOG_BUFFER_ENABLED", some (.number 0), none, 'n'⟩]

/-- `loc_read_conf_long`: the table and `loc_param_table` after it. -/
def locReadConfLong (confFile : Option Bytes) (configTable paramTable : List (LocParamS D)) (stringLen : ℕ) :
    List (LocParamS D) × List (LocParamS D) :=
  match confFile with
  | some confFp =>
    (if configTable = [] then configTable else (locReadConfRLong confFp configTable stringLen).2,
      (locReadConfRLong confFp paramTable stringLen).2)
  | none => (configTable, paramTable)

end Cypfr.LocCfg
