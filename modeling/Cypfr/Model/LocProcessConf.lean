import Cypfr.Model.LocCfg

/-! # The processes of a configuration

`gps/utils/loc_cfg.cpp`: the file of the processes is read twice, first to count the names, and then block by block,
where a block is as many assigning lines as it has parameters. What is read stands in one structure for all blocks.
-/

namespace Cypfr.LocCfg

/-- No parameter of a process is a double. -/
instance : CDouble Unit := ⟨(), fun _ => ()⟩

/-- `LOC_MAX_PARAM_STRING`. -/
def locMaxParamString : ℕ := 172

/-- `LOC_PROCESS_MAX_NUM_ARGS`. -/
def locProcessMaxNumArgs : ℕ := 25

/-- `LOC_PROCESS_MAX_ARG_STR_LENGTH`. -/
def locProcessMaxArgStrLength : ℕ := 32

/-- `MAX_NUM_STRINGS`. -/
def maxNumStrings : ℕ := 20

/-- The parameters of a block. -/
structure ProcessParams where
  procName : Bytes
  procArgument : Bytes
  procStatus : Bytes
  groupList : Bytes
  premiumFeature : Int32
  locFeatureMask : Int32
  platformList : Bytes
  socIdList : Bytes
  baseband : Bytes
  lowRamTargets : Bytes
  autoPlatform : Bytes
  vendorEnhancedProcess : Int32

/-- The features. -/
structure FeatureParams where
  gtpMode : Bytes
  gtpWaa : Bytes
  sap : Bytes
  odcpi : Bytes
  freeWifiScanInject : Bytes
  suplWifi : Bytes
  wifiSupplicantInfo : Bytes

/-- `loc_launcher_conf`. -/
structure LocLauncherConf where
  process : ProcessParams
  feature : FeatureParams
  sglteTarget : Int32

/-- A string with its name. -/
def stringParam (name : String) (value : Bytes) : LocParamS Unit := ⟨ascii name, some (.string value), none, 's'⟩

/-- A number with its name. -/
def numberParam (name : String) (value : Int32) : LocParamS Unit := ⟨ascii name, some (.number value), none, 'n'⟩

def LocParamS.stringValue (entry : LocParamS Unit) : Bytes :=
  match entry.param with
  | some (.string value) => value
  | _ => []

def LocParamS.numberValue (entry : LocParamS Unit) : Int32 :=
  match entry.param with
  | some (.number value) => value
  | _ => 0

/-- `loc_process_conf_parameter_table`. -/
def ProcessParams.table (params : ProcessParams) : List (LocParamS Unit) :=
  [stringParam "PROCESS_NAME" params.procName, stringParam "PROCESS_ARGUMENT" params.procArgument,
    stringParam "PROCESS_STATE" params.procStatus, stringParam "PROCESS_GROUPS" params.groupList,
    numberParam "PREMIUM_FEATURE" params.premiumFeature, numberParam "IZAT_FEATURE_MASK" params.locFeatureMask,
    stringParam "PLATFORMS" params.platformList, stringParam "SOC_IDS" params.socIdList,
    stringParam "BASEBAND" params.baseband, stringParam "LOW_RAM_TARGETS" params.lowRamTargets,
    stringParam "HARDWARE_TYPE" params.autoPlatform, numberParam "VENDOR_ENHANCED_PROCESS" params.vendorEnhancedProcess]

/-- What a table holds. -/
def ProcessParams.ofTable : List (LocParamS Unit) → ProcessParams
  | [name, argument, state, groups, premium, mask, platforms, socIds, baseband, lowRam, hardware, vendor] =>
    ⟨name.stringValue, argument.stringValue, state.stringValue, groups.stringValue, premium.numberValue,
      mask.numberValue, platforms.stringValue, socIds.stringValue, baseband.stringValue, lowRam.stringValue,
      hardware.stringValue, vendor.numberValue⟩
  | _ => ⟨[], [], [], [], 0, 0, [], [], [], [], [], 0⟩

/-- `loc_feature_conf_table`. -/
def FeatureParams.table (params : FeatureParams) : List (LocParamS Unit) :=
  [stringParam "GTP_MODE" params.gtpMode, stringParam "GTP_WAA" params.gtpWaa, stringParam "SAP" params.sap,
    stringParam "ODCPI" params.odcpi, stringParam "FREE_WIFI_SCAN_INJECT" params.freeWifiScanInject,
    stringParam "SUPL_WIFI" params.suplWifi, stringParam "WIFI_SUPPLICANT_INFO" params.wifiSupplicantInfo]

/-- What a table holds. -/
def FeatureParams.ofTable : List (LocParamS Unit) → FeatureParams
  | [gtpMode, gtpWaa, sap, odcpi, freeWifiScanInject, suplWifi, wifiSupplicantInfo] =>
    ⟨gtpMode.stringValue, gtpWaa.stringValue, sap.stringValue, odcpi.stringValue, freeWifiScanInject.stringValue,
      suplWifi.stringValue, wifiSupplicantInfo.stringValue⟩
  | _ => ⟨[], [], [], [], [], [], []⟩

/-- `gps_conf_parameter_table`. -/
def gpsConfParameterTable (sglteTarget : Int32) : List (LocParamS Unit) := [numberParam "SGLTE_TARGET" sglteTarget]

/-- What is known of the device: its properties, its groups and its `gps.conf`. -/
structure Device where
  platformName : Bytes
  basebandName : Bytes
  autoplatformName : Bytes
  lowRamTarget : Bool
  socidValue : Bytes
  vendorEnhanced : Bool
  getgrnam : Bytes → Option UInt32
  gpsConf : Option Bytes
  useGlib : Bool

/-- `loc_process_e_status`. -/
inductive ProcStatus where
  | enabled | running | disabled | disabledFromConf | disabledViaVendorEnhancedCheck
  deriving DecidableEq

/-- `loc_process_info_s_type`, with the groups and the arguments that are set. -/
structure LocProcessInfo where
  procStatus : ProcStatus
  name : Bytes
  groupList : List UInt32
  args : List Bytes
  argumentString : Bytes
  deriving DecidableEq

/-- `loc_util_split_string`. -/
def locUtilSplitString (rawString : Bytes) (maxNumSubstrings : ℕ) (delimiter : UInt8) : List Bytes :=
  (rawString.splitOn delimiter).take maxNumSubstrings

namespace FeatureMask

def gtpWifiBasic : UInt32 := 0x01
def gtpWifiPremium : UInt32 := 0x02
def gtpCellBasic : UInt32 := 0x04
def gtpCellPremium : UInt32 := 0x08
def sapBasic : UInt32 := 0x40
def sapPremium : UInt32 := 0x80
def gtpWaaBasic : UInt32 := 0x100
def gtpModemCellBasic : UInt32 := 0x400
def odcpi : UInt32 := 0x1000
def freeWifiScanInject : UInt32 := 0x2000
def suplWifi : UInt32 := 0x4000
def wifiSupplicantInfo : UInt32 := 0x8000

end FeatureMask

/-- A feature that is on when it is basic or premium. -/
def basicOrPremium (mode : Bytes) (mask : UInt32) : UInt32 :=
  if mode = ascii "BASIC" then mask
  else if mode = ascii "DISABLED" then 0
  else if mode = ascii "PREMIUM" then mask
  else 0

open FeatureMask in
/-- The service mask of the features. -/
def FeatureParams.locServiceMask (params : FeatureParams) (useGlib : Bool) : UInt32 :=
  let gtpMode :=
    if params.gtpMode = ascii "DISABLED" then 0
    else if params.gtpMode = ascii "LEGACY_WWAN" then gtpModemCellBasic
    else if params.gtpMode = ascii "SDK" then gtpWifiBasic
    else if params.gtpMode = ascii "SDK_WIFI" then gtpWifiBasic
    else 0
  let gtpWaa := if params.gtpWaa = ascii "BASIC" then gtpWaaBasic else 0
  let sap :=
    if params.sap = ascii "PREMIUM" ∨ params.sap = ascii "PREMIUM_ENV_AIDING" then sapPremium
    else if params.sap = ascii "BASIC" then sapBasic
    else if params.sap = ascii "MODEM_DEFAULT" then sapBasic
    else if params.sap = ascii "DISABLED" then if useGlib then sapBasic else 0
    else sapBasic
  gtpMode ||| gtpWaa ||| sap ||| basicOrPremium params.odcpi FeatureMask.odcpi |||
    basicOrPremium params.freeWifiScanInject FeatureMask.freeWifiScanInject |||
      basicOrPremium params.suplWifi FeatureMask.suplWifi |||
        basicOrPremium params.wifiSupplicantInfo FeatureMask.wifiSupplicantInfo

/-- A list of platforms, of ids of a SOC or of basebands has all of them or the own one. -/
def listMask (strings : List Bytes) (own : Bytes) (also : Bytes → Bool) (all found : UInt8) : UInt8 :=
  if strings.headD [] = ascii "all" then
    if strings.length = 1 ∨ (strings.length = 2 ∧ strings.tail.headD [] = ascii "exclude") then all
    else if 2 < strings.length ∧ strings.tail.headD [] = ascii "exclude" then
      if (strings.drop 2).contains own then 0 else found
    else 0
  else if strings.any fun string => string == own || also string then found
  else 0

/-- `"--"` and a name of a feature. -/
def featureArg (name : String) : Bytes := strlcpy (ascii "--" ++ ascii name) (locProcessMaxArgStrLength - 3)

open FeatureMask in
/-- The arguments for the features of a process. -/
def featureArgs (locFeatureMask locServiceMask : UInt32) : List Bytes :=
  (if locFeatureMask &&& (gtpWifiBasic ||| gtpWifiPremium) = 0 then []
    else [featureArg "gtp-wifi",
      if locServiceMask &&& gtpWifiBasic ≠ 0 then ascii "BASIC"
      else if locServiceMask &&& gtpWifiPremium ≠ 0 then ascii "PREMIUM"
      else ascii "DISABLED"]) ++
  (if locFeatureMask &&& (gtpCellBasic ||| gtpCellPremium) = 0 then []
    else [featureArg "gtp-modem-cell",
      if locServiceMask &&& gtpModemCellBasic ≠ 0 then ascii "BASIC" else ascii "DISABLED"]) ++
  (if locFeatureMask &&& (sapBasic ||| sapPremium) = 0 then []
    else [featureArg "sap",
      if locServiceMask &&& sapBasic ≠ 0 then ascii "BASIC"
      else if locServiceMask &&& sapPremium ≠ 0 then ascii "PREMIUM"
      else ascii "DISABLED"]) ++
  (if locFeatureMask &&& gtpWaaBasic = 0 then []
    else [featureArg "gtp-waa", if locServiceMask &&& gtpWaaBasic ≠ 0 then ascii "BASIC" else ascii "DISABLED"])

/-- The name of a process without its path. -/
def processArg (name : Bytes) : Bytes :=
  if name.headD 0 = 47 then (name.reverse.takeWhile (· != 47)).reverse else name

section Evaluate

variable (device : Device) (locServiceMask : UInt32) (sglteTarget : Int32)

/-- A string of the configuration, split at its spaces. -/
def confStrings (rawString : Bytes) : List Bytes := locUtilSplitString rawString maxNumStrings 32

/-- The parts of `config_mask`. -/
def ProcessParams.configMask (params : ProcessParams) : List UInt8 :=
  [listMask (confStrings params.platformList) device.platformName (fun _ => false) 0x01 0x02,
    listMask (confStrings params.socIdList) device.socidValue (fun _ => false) 0x40 0x80,
    listMask (confStrings params.baseband) device.basebandName
      (fun string => string == ascii "sglte" && sglteTarget != 0) 0x04 0x08,
    if (confStrings params.autoPlatform).headD [] = ascii "all" then 0x10
    else if (confStrings params.autoPlatform).contains device.autoplatformName then 0x20
    else 0]

/-- What is left of the parameters when their lists are split. -/
def ProcessParams.split (params : ProcessParams) : ProcessParams :=
  { params with
    groupList := (confStrings params.groupList).headD []
    platformList := (confStrings params.platformList).headD []
    socIdList := (confStrings params.socIdList).headD []
    baseband := (confStrings params.baseband).headD []
    autoPlatform := (confStrings params.autoPlatform).headD []
    lowRamTargets := (confStrings params.lowRamTargets).headD [] }

/-- An entry of which only the status is set. -/
def LocProcessInfo.blank (procStatus : ProcStatus) : LocProcessInfo := ⟨procStatus, [], [], [], []⟩

/-- The entry of an enabled process, or of one that is not enabled for its features. -/
def ProcessParams.launch (params : ProcessParams) (name : Bytes) (groupList : List UInt32) : LocProcessInfo :=
  let served := decide (params.premiumFeature ≠ 0 ∧ params.locFeatureMask.toUInt32 &&& locServiceMask ≠ 0)
  let procStatus := if params.premiumFeature = 0 ∨ served = true then .enabled else .disabled
  let args := strlcpy (processArg name) locProcessMaxArgStrLength ::
    if served then featureArgs params.locFeatureMask.toUInt32 locServiceMask else []
  if params.procArgument = [] then ⟨procStatus, name, groupList, args, []⟩
  else
    let strings :=
      locUtilSplitString (strlcpy params.procArgument locMaxParamString) (locProcessMaxNumArgs - args.length) 32
    ⟨procStatus, name, groupList, args ++ strings.map (strlcpy · locProcessMaxArgStrLength), strings.headD []⟩

/-- The evaluation of a block in `loc_read_process_conf`: the entry and what is left of the parameters. -/
def ProcessParams.evaluate (params : ProcessParams) : LocProcessInfo × ProcessParams :=
  if params.procName = [] ∨ params.groupList = [] ∨ params.platformList = [] ∨ params.baseband = [] ∨
      params.procStatus = [] ∨ params.autoPlatform = [] ∨ params.socIdList = [] then (.blank .disabled, params)
  else if device.vendorEnhanced = false ∧ params.vendorEnhancedProcess ≠ 0 then
    (.blank .disabledViaVendorEnhancedCheck, params)
  else if params.procStatus = ascii "DISABLED" then (.blank .disabledFromConf, params)
  else if locMaxParamString < params.procName.length + 1 then (.blank .disabled, params)
  else
    let name := strlcpy params.procName locMaxParamString
    let groupList := (confStrings params.groupList).filterMap device.getgrnam
    if (confStrings params.lowRamTargets).headD [] = ascii "DISABLED" ∧ device.lowRamTarget = true then
      (⟨.disabled, name, groupList, [], []⟩, params.split)
    else if (params.configMask device sglteTarget).all (· != 0) then
      (params.launch locServiceMask name groupList, params.split)
    else (⟨.disabled, name, groupList, [], []⟩, params.split)

/-- The first pass of `loc_read_process_conf`, with at most `fuel` names: `proc_list_length` and the parameters. -/
def countLoop : ℕ → Bytes → ProcessParams → UInt8 → UInt8 × ProcessParams
  | 0, _, params, procListLength => (procListLength, params)
  | fuel + 1, confFp, params, procListLength =>
    let cleared : ProcessParams := { params with procName := [] }
    let read := locReadConfRLong confFp (cleared.table.take 1) locMaxParamString
    let procName := (read.2.map LocParamS.stringValue).headD []
    if procName = [] then (procListLength, { params with procName := procName })
    else countLoop fuel read.1 { params with procName := procName } (procListLength + 1)

/-- The second pass: the entries and the parameters. -/
def blockLoop : ℕ → Bytes → ProcessParams → List LocProcessInfo × ProcessParams
  | 0, _, params => ([], params)
  | left + 1, confFp, params =>
    let read := locReadConfRLong confFp params.table locMaxParamString
    let entry := (ProcessParams.ofTable read.2).evaluate device locServiceMask sglteTarget
    let later := blockLoop left read.1 entry.2
    (entry.1 :: later.1, later.2)

end Evaluate

/-- `loc_read_process_conf`: what it returns, the entries and the configuration that stays. -/
def locReadProcessConf (device : Device) (confFile : Option Bytes) (conf : LocLauncherConf) :
    Int32 × List LocProcessInfo × LocLauncherConf :=
  let gps := (locReadConfLong device.gpsConf (gpsConfParameterTable conf.sglteTarget) locParamTable locMaxParamString).1
  let sglteTarget := (gps.map LocParamS.numberValue).headD 0
  let feature := FeatureParams.ofTable
    (locReadConfLong confFile conf.feature.table locParamTable locMaxParamString).1
  match confFile with
  | some confFp =>
    let counted := countLoop (confFp.length + 1) confFp conf.process 0
    let read := blockLoop device (feature.locServiceMask device.useGlib) sglteTarget counted.1.toNat confFp counted.2
    (0, read.1, ⟨read.2, feature, sglteTarget⟩)
  | none => (-1, [], ⟨conf.process, feature, sglteTarget⟩)

end Cypfr.LocCfg
