import TypeChecker.Config.Rules
import TypeChecker.Datum
import TypeChecker.Path.Uri
import TypeChecker.StaticCondition

/-! The settings of a project, read from a configuration value. -/

namespace TypeChecker

abbrev DefinedVal := Bool ⊕ String

structure Env where
 name : String
 root : Uri
 ver : Ver
 platform : String?
 extraPaths : List Uri
 rules : RuleSet
 skipsNative := false

structure Settings where
 root : Uri
 (included excluded ignored strictFiles : List FileSpec := [])
 mode := "standard"
 rules : RuleSet := .ofMode .standard
 constants : ByName DefinedVal := []
 (typeshedPath stubPath venvPath : Option Uri := none)
 venv : String? := none
 extraPaths : Option (List Uri) := none
 ver : Option Ver := none
 platform : String? := none
 (skipsNative isVerbose usesLibraryCode : Bool? := none)
 completesImports := true
 (isIndexed logsTime : Bool := false)
 timeThreshold : Datum := .int 50
 sigDisplay := "formatted"
 environments : List Env := []

inductive LogLevel where
 | error | warn | info | log

def LogLevel.name : LogLevel -> String
 | .error => "error" | .warn => "warn" | .info => "info" | .log => "log"

structure OptsLog where
 (own shared : Array String := #[])

inductive ConfigError where
 | nullConfig
 | nullConstants

def ConfigError.msg : ConfigError -> String
 | .nullConfig => "Cannot read properties of null (reading 'include')"
 | .nullConstants => "Cannot convert undefined or null to object"

structure OptsState where
 settings : Settings
 log : OptsLog := {}

abbrev ReadOpts := ExceptT ConfigError (StateM OptsState)

namespace Settings
variable (level : LogLevel) (text : String)
def say : ReadOpts Unit := modify fun s => {s with log.own := s.log.own.push (level.name ++ ": " ++ text)}

def sayShared : ReadOpts Unit := modify fun s => {s with log.shared := s.log.shared.push (level.name ++ ": " ++ text)}

def change (step : Settings -> Settings) : ReadOpts Unit := modify fun s => {s with settings := step s.settings}
def quoted := "\"" ++ text ++ "\""

/-! Fields of one kind. -/

def readField {α : Type} (config : Datum) (name complaint : String) (convert : Datum -> Option α)
  (use : α -> ReadOpts Unit) : ReadOpts Unit :=
 if let some val := config.get? name then if let some val := convert val then use val
  else say .error ("Config " ++ quoted name ++ " " ++ complaint)
 else pure ()

def asItems? : Datum -> Option (List Datum)
 | .array items => items.toList
 | _ => none

def asNum? : Datum -> Datum?
 | .number mantissa places => some (.number mantissa places)
 | _ => none

def isTruthy : Datum -> Bool
 | .null => false
 | .bool val => val
 | .number mantissa _ => mantissa != 0
 | .string val => val != ""
 | .text val => !val.isEmpty
 | .array _ | .obj _ => true

variable (config overrides : Datum) (rules : RuleSet) (dir : Uri) (name : String)
def readSpecs (allowsAbsolute : Bool) (use : Settings -> List FileSpec -> Settings) :=
 readField config name "entry must contain an array." asItems? fun items => do
  let specs <- items.zipIdx.filterMapM fun (item, idx) => do
   if let .string pat := item then
    if allowsAbsolute || !pat.startsWith "/" then return FileSpec.create dir pat
    say .error ("Ignoring path " ++ quoted pat ++ " in " ++ quoted name ++ " array because it is not relative.")
   else say .error ("Index " ++ idx.repr ++ " of " ++ quoted name ++ " array should be a string.")
   pure none
  change (use · specs)

def readPathItems (place : String) (items : List Datum) : ReadOpts (List Uri) :=
 items.zipIdx.filterMapM fun (item, idx) => do
  if let .string path := item then return dir.resolve [path]
  say .error (place ++ idx.repr ++ " must be a string.")
  pure none

def needsStr := "field must contain a string."
def needsBool := "field must be true or false."

def readStr (use : Settings -> String -> Settings) :=
 readField config name needsStr Datum.asStr? fun val => change (use · val)

def readBool (complaint : String) (use : Settings -> Bool -> Settings) :=
 readField config name complaint Datum.asBool? fun val => change (use · val)

/-! Rules. -/

def readSwitch (switch : Switch) : ReadOpts RuleSet :=
 match config.get? switch.name with
 | none => pure rules
 | some (.bool val) => pure (rules.setSwitch switch val)
 | some _ => do
  sayShared .log ("Config " ++ quoted switch.name ++ " entry must be true or false.")
  pure rules

def levelOf? : Datum -> Option Level
 | .bool val => some (if val then .error else .none)
 | .string val => Level.ofName? val
 | _ => none

def readLevel (rule : Rule) : ReadOpts RuleSet :=
 if let some val := config.get? rule.name then if let some level := levelOf? val then pure (rules.setLevel rule level)
  else do
   sayShared .log ("Config " ++ quoted rule.name ++
    " entry must be true, false, \"error\", \"warning\", \"information\" or \"none\".")
   pure rules
 else pure rules

def readRules : ReadOpts RuleSet := do
 let rules <- Switch.configurable.foldlM (readSwitch config) rules
 Rule.all.foldlM (readLevel config) rules

def override :=
 let rules := Rule.all.foldl (fun rules rule =>
  if let some level := (overrides.str? rule.name).bind Level.ofName? then rules.setLevel rule level else rules) rules
 Switch.configurable.foldl (fun rules switch =>
  if let some val := (overrides.get? switch.name).bind Datum.asBool? then rules.setSwitch switch val else rules) rules

def setMode (mode : String) (settings : Settings) :=
 {settings with mode, rules := .ofMode ((CheckingMode.ofName? mode).getD .standard)}

/-! The fields of a configuration. -/

def readPaths : ReadOpts Unit := do
 readStr config "venvPath" fun settings val => {settings with venvPath := (dir.resolve [val])}
 readStr config "venv" ({· with venv := some ·})
 readField config "extraPaths" "field must contain an array." asItems? fun items => do
  let paths <- readPathItems dir "Config \"extraPaths\" field " items
  change ({· with extraPaths := paths})

def readLanguage : ReadOpts Unit := do
 readField config "pythonVersion" needsStr Datum.asStr? fun val =>
  if let some ver := Ver.ofString? val then change ({· with ver := ver})
  else say .error "Config \"pythonVersion\" field contains unsupported version."
 readStr config "pythonPlatform" ({· with platform := some ·})
 match config.get? "skipNativeLibraries" with
 | none => pure ()
 | some (.bool val) => if val then change ({· with skipsNative := true})
 | some val => if isTruthy val then say .error "Config \"skipNativeLibraries\" field must contain a boolean."

def readStubPaths : ReadOpts Unit := do
 readStr config "typeshedPath" fun settings val => {settings with
   typeshedPath := if val == "" then none else dir.resolve [val]}
 readField config "typingsPath" needsStr Datum.asStr? fun val => do
  say .error "Config \"typingsPath\" is now deprecated. Please, use stubPath instead."
  change ({· with stubPath := (dir.resolve [val])})
 readStr config "stubPath" fun settings val => {settings with stubPath := (dir.resolve [val])}

def define (val : DefinedVal) (settings : Settings) : Settings :=
 {settings with constants := settings.constants.filter (·.1 != name) ++ [(name, val)]}

def readConstants : ReadOpts Unit :=
 match config.get? "defineConstant" with
 | none => pure ()
 | some .null => throw .nullConstants
 | some (.obj fields) => fields.forM fun (name, val) =>
  match val with
  | .bool val => change (define name (.inl val))
  | .string val => change (define name (.inr val))
  | _ => say .error ("Defined constant " ++ quoted name ++ " must be associated with a boolean or string value.")
 | some _ => say .error "Config \"defineConstant\" field must contain a map indexed by constant names."

def readDisplay : ReadOpts Unit := do
 readBool config "useLibraryCodeForTypes" needsBool ({· with usesLibraryCode := some ·})
 readBool config "autoImportCompletions" needsBool ({· with completesImports := ·})
 readBool config "indexing" needsBool ({· with isIndexed := ·})
 readBool config "logTypeEvaluationTime" needsBool ({· with logsTime := ·})
 readField config "typeEvaluationTimeThreshold" "field must be a number." asNum? fun val =>
  change ({· with timeThreshold := val})
 readField config "functionSignatureDisplay" needsBool Datum.asStr? fun val =>
  if val == "compact" || val == "formatted" then change ({· with sigDisplay := val}) else pure ()

def readFields : ReadOpts Unit := do
 if config matches .null then throw .nullConfig
 readSpecs config dir "include" false ({· with included := ·})
 readSpecs config dir "exclude" false ({· with excluded := ·})
 readSpecs config dir "ignore" true ({· with ignored := ·})
 readSpecs config dir "strict" false ({· with strictFiles := ·})
 readField config "typeCheckingMode"
  "entry must contain \"off\", \"basic\", \"standard\", or \"strict\"."
  (·.asStr?.bind CheckingMode.ofName?) fun mode => change (setMode mode.name)
 readBool config "useLibraryCodeForTypes" "entry must be true or false." ({· with usesLibraryCode := some ·})
 let rules <- readRules config (<- get).settings.rules
 change ({· with rules})
 readPaths config dir
 readLanguage config
 readStubPaths config dir
 readBool config "verboseOutput" needsBool ({· with isVerbose := some ·})
 readConstants config
 readDisplay config

def readExtends : ReadOpts (Option Uri) :=
 match config.get? "extends" with
 | none => pure none
 | some (.string path) => pure (dir.resolve [path])
 | some _ => do
  sayShared .error "Config \"extends\" field must contain a string."
  pure none

/-! Environments. -/

variable (settings : Settings)
def dfltEnv : Env :=
 {name := "python", root := settings.root, ver := settings.ver.getD .latest
  platform := settings.platform, extraPaths := settings.extraPaths.getD []
  rules := settings.rules, skipsNative := settings.skipsNative.getD false}

def readPart {α : Type} (name complaint : String) (convert : Datum -> Option α)
  (use : α -> Env -> ReadOpts Env) (env : Env) : ReadOpts Env :=
 if let some val := (config.get? name).filter isTruthy then if let some val := convert val then use val env
  else do
   say .error complaint
   pure env
 else pure env

variable (uri dir : Uri)
def readEnv (idx : Nat) : ReadOpts (Option Env) := do
 let place := "Config executionEnvironments index " ++ idx.repr
 if config matches .null then
  say .error (place ++ " is not accessible.")
  return none
 let root := ((config.str? "root").filter (· != "")).map (dir.resolve [·])
 if root.isNone then say .error (place ++ ": missing root value.")
 let env := {(<- get).settings.dfltEnv with root := root.getD dir, skipsNative := false}
 let env <- readPart config "extraPaths" (place ++ ": extraPaths field must contain an array.") asItems?
  (fun items env => return {env with extraPaths := <- readPathItems dir (place ++ ": extraPaths field ") items})
  env
 let env <- readPart config "pythonVersion" (place ++ " pythonVersion must be a string.") Datum.asStr?
  (fun text env => do
   if let some ver := Ver.ofString? text then return {env with ver}
   say .warn (place ++ " contains unsupported pythonVersion.")
   pure env) env
 let env <- readPart config "pythonPlatform" (place ++ " pythonPlatform must be a string.") Datum.asStr?
  (fun text env => pure {env with platform := text}) env
 let env <- readPart config "name" (place ++ " name must be a string.") Datum.asStr?
  (fun name env => pure {env with name}) env
 return some {env with rules := <- readRules config env.rules}

def readEnvs :=
 readField config "executionEnvironments" "field must contain an array." asItems? fun items => do
  let environments <- items.zipIdx.filterMapM fun (item, idx) => readEnv item dir idx
  change ({· with environments})

/-! The whole configuration. -/

structure Host where
 platform : String? := none
 ver : Option Ver := none
 log : Strings := []

def readHost (host : Host) : ReadOpts Unit := do
 if (<- get).settings.platform.isNone then
  change ({· with platform := host.platform})
  if let some platform := host.platform then say .log ("Assuming Python platform " ++ platform)
 if (<- get).settings.ver.isNone then
  change ({· with ver := host.ver})
  if let some ver := host.ver then say .info ("Assuming Python version " ++ ver.print)
  host.log.forM (say .info)

def readAll (mode : String?) (overrides : Datum?) (host : Host) : ReadOpts (Option Uri) := do
 if let some mode := mode then change (setMode mode)
 if let some overrides := overrides then
  change fun settings => {settings with rules := settings.rules |> override overrides}
 readFields config dir
 let extended <- readExtends config dir
 readHost host
 readEnvs config dir
 pure extended

/-! Files. -/

def allEnvironments := if settings.environments.isEmpty then [settings.dfltEnv] else settings.environments
def envOf := (settings.environments.find? (uri.startsWith ·.root)).getD settings.dfltEnv

def includes (isFile : Bool) :=
 FileSpec.anyMatch settings.included uri && !FileSpec.anyMatch settings.excluded uri &&
  (!isFile || !uri.isEmpty && Path.hasSrcExt uri.path)

end Settings
end TypeChecker
