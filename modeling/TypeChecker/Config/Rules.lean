import TypeChecker.Message.Text
import TypeChecker.Token.Basic

/-! The rules of the checker: for each rule how severely its violations are reported, and switches that change
what is checked. -/

namespace TypeChecker

inductive Level where
 | none | information | warning | error
 deriving DecidableEq

namespace Level

def name : Level -> String
 | .none => "none" | .information => "information" | .warning => "warning" | .error => "error"

def ofName? (name : String) := [none, information, warning, error].find? (·.name == name)

def cat? : Level -> Option DiagCat
 | .none => .none
 | .information => some .information
 | .warning => some .warning
 | .error => some .error

end Level

inductive Rule where
 | general | propTyClash | fnMemAccess | missingImports
 | missingModSrc | invalidTyForm | missingTyStubs | importCycles | unusedImport
 | unusedCls | unusedFn | unusedVar | duplicateImport | wildImportFromLib
 | absUsage | argumentTy | assertTyFailure | assignmentTy | attrAccessIssue
 | callIssue | mixedOvl | idxIssue | invalidTyArgs
 | noOvlImpl | opIssue | optSubscript | optMemAccess
 | optCall | optIterable | optContextManager | optOperand | redeclaration
 | retTy | tdictNotRequiredAccess | untypedFnDeco | untypedClsDeco
 | untypedBaseCls | untypedNamedTup | privUsage | tyCmtUsage | privImportUsage
 | constantRedefinition | deprecated | methOverride | varOverride
 | mixedCtor | overlappingOvl | possiblyUnboundVar | missingSuperCall
 | unsetInstVar | invalidStrEscapeSeq | unkParTy
 | unkArgTy | unkLambdaTy | unkVarTy | unkMemTy
 | missingParTy | missingTyArg | invalidTyVarUse | callInDfltInitializer
 | idleIsInst | idleCast | idleCompare | idleContains
 | assertAlwaysTrue | selfClsParName | autoStrConcatenation | undefinedVar
 | unhashable | unboundVar | invalidStubStmt | draftStub | unsupportedDunderAll
 | unusedCallRes | unusedCoro | unusedExcept | unusedExpr
 | idleTyIgnoreCmt | matchNotFull | dead | shadowedImports
 | autoOverride
 deriving DecidableEq

abbrev Levels := Level × Level × Level × Level

namespace Levels

def never : Levels := (.none, .none, .none, .none)
def strictly : Levels := (.none, .none, .none, .error)
def normally : Levels := (.none, .none, .error, .error)
def mostly : Levels := (.none, .error, .error, .error)
def always : Levels := (.warning, .error, .error, .error)
def warned : Levels := (.none, .warning, .warning, .error)

end Levels

def Rule.names := [
 "GeneralTypeIssues", "PropertyTypeMismatch", "FunctionMemberAccess", "MissingImports", "MissingModuleSource",
 "InvalidTypeForm", "MissingTypeStubs", "ImportCycles", "UnusedImport", "UnusedClass", "UnusedFunction",
 "UnusedVariable", "DuplicateImport", "WildcardImportFromLibrary", "AbstractUsage", "ArgumentType",
 "AssertTypeFailure", "AssignmentType", "AttributeAccessIssue", "CallIssue", "InconsistentOverload", "IndexIssue",
 "InvalidTypeArguments", "NoOverloadImplementation", "OperatorIssue", "OptionalSubscript", "OptionalMemberAccess",
 "OptionalCall", "OptionalIterable", "OptionalContextManager", "OptionalOperand", "Redeclaration", "ReturnType",
 "TypedDictNotRequiredAccess", "UntypedFunctionDecorator", "UntypedClassDecorator", "UntypedBaseClass",
 "UntypedNamedTuple", "PrivateUsage", "TypeCommentUsage", "PrivateImportUsage", "ConstantRedefinition",
 "Deprecated", "IncompatibleMethodOverride", "IncompatibleVariableOverride", "InconsistentConstructor",
 "OverlappingOverload", "PossiblyUnboundVariable", "MissingSuperCall", "UninitializedInstanceVariable",
 "InvalidStringEscapeSequence", "UnknownParameterType", "UnknownArgumentType", "UnknownLambdaType",
 "UnknownVariableType", "UnknownMemberType", "MissingParameterType", "MissingTypeArgument", "InvalidTypeVarUse",
 "CallInDefaultInitializer", "UnnecessaryIsInstance", "UnnecessaryCast", "UnnecessaryComparison",
 "UnnecessaryContains", "AssertAlwaysTrue", "SelfClsParameterName", "ImplicitStringConcatenation",
 "UndefinedVariable", "Unhashable", "UnboundVariable", "InvalidStubStatement", "IncompleteStub",
 "UnsupportedDunderAll", "UnusedCallResult", "UnusedCoroutine", "UnusedExcept", "UnusedExpression",
 "UnnecessaryTypeIgnoreComment", "MatchNotExhaustive", "Unreachable", "ShadowedImports", "ImplicitOverride"].map ("report" ++ ·)

open Levels in
def Rule.levels : Rule -> Levels
 | .propTyClash | .importCycles | .missingSuperCall | .unsetInstVar
 | .callInDfltInitializer | .autoStrConcatenation | .unusedCallRes | .idleTyIgnoreCmt
 | .dead | .shadowedImports | .autoOverride => never
 | .fnMemAccess | .methOverride | .varOverride | .overlappingOvl
 | .possiblyUnboundVar => normally
 | .missingImports | .invalidTyForm | .undefinedVar => always
 | .missingModSrc => (.warning, .warning, .warning, .warning)
 | .missingTyStubs | .unusedImport | .unusedCls | .unusedFn | .unusedVar | .duplicateImport
 | .untypedFnDeco | .untypedClsDeco | .untypedBaseCls | .untypedNamedTup | .privUsage
 | .tyCmtUsage | .constantRedefinition | .deprecated | .mixedCtor | .unkParTy
 | .unkArgTy | .unkLambdaTy | .unkVarTy | .unkMemTy | .missingParTy
 | .missingTyArg | .idleIsInst | .idleCast | .idleCompare | .idleContains
 | .invalidStubStmt | .draftStub | .matchNotFull => strictly
 | .wildImportFromLib | .invalidStrEscapeSeq | .invalidTyVarUse | .assertAlwaysTrue
 | .selfClsParName | .unsupportedDunderAll | .unusedExpr => warned
 | _ => mostly

inductive Switch where
 | printUnkAsAny | omitTyArgsIfUnk | omitBareParTy
 | omitConditionalConstr | pep604Printing | strictListInference | strictSetInference
 | strictDictInference | analyzeBareFns | strictParNoneVal
 | enableTrialFeatures | enableTyIgnoreCmts | enableReachAnalysis
 | deprecateTypingAliases | disableBytesTyPromotions
 deriving DecidableEq

def Switch.names := [
 "printUnknownAsAny", "omitTypeArgsIfUnknown", "omitUnannotatedParamType", "omitConditionalConstraint",
 "pep604Printing", "strictListInference", "strictSetInference", "strictDictionaryInference",
 "analyzeUnannotatedFunctions", "strictParameterNoneValue", "enableExperimentalFeatures", "enableTypeIgnoreComments",
 "enableReachabilityAnalysis", "deprecateTypingAliases", "disableBytesTypePromotions"]

def Switch.settings : Switch -> Bool × Bool × Bool × Bool
 | .printUnkAsAny | .omitTyArgsIfUnk | .omitConditionalConstr => (true, false, false, false)
 | .omitBareParTy => (true, true, true, false)
 | .strictListInference | .strictSetInference | .strictDictInference => (false, false, false, true)
 | .enableTrialFeatures | .deprecateTypingAliases => (false, false, false, false)
 | .enableReachAnalysis => (false, true, true, true)
 | _ => (true, true, true, true)

def Switch.overridable : List Switch := [.strictListInference, .strictSetInference, .strictDictInference,
 .analyzeBareFns, .strictParNoneVal, .enableTrialFeatures,
 .deprecateTypingAliases, .disableBytesTyPromotions]

def Switch.configurable := overridable ++ [.enableTyIgnoreCmts, .enableReachAnalysis]

namespace Rule

def name (rule : Rule) := names.getD rule.ctorIdx ""
def ofName? (name : String) := (names.idxOf? name).map ofNat
def all := (List.range names.length).map ofNat

end Rule
namespace Switch

def name (switch : Switch) := names.getD switch.ctorIdx ""
def all := (List.range names.length).map ofNat

end Switch

inductive CheckingMode where
 | off | basic | standard | strict

namespace CheckingMode

def name : CheckingMode -> String
 | .off => "off" | .basic => "basic" | .standard => "standard" | .strict => "strict"

def ofName? (name : String) := [off, basic, standard, strict].find? (·.name == name)

def choose {α : Type} (mode : CheckingMode) : α × α × α × α -> α
 | (first, second, third, fourth) => match mode with
  | .off => first
  | .basic => second
  | .standard => third
  | .strict => fourth

end CheckingMode

structure RuleSet where
 levels : Array Level
 switches : Array Bool

namespace RuleSet

def ofMode (mode : CheckingMode) : RuleSet :=
 {levels := (Rule.all.map (mode.choose ·.levels)).toArray
  switches := (Switch.all.map (mode.choose ·.settings)).toArray}

variable (rules : RuleSet)
@[inline] def level (rule : Rule) := rules.levels.getD rule.ctorIdx .none

variable (switch : Switch)
@[inline] def isOn := rules.switches.getD switch.ctorIdx false

def setLevel (rule : Rule) (level : Level) := {rules with levels := rules.levels.setIfInBounds rule.ctorIdx level}

def setSwitch (val : Bool) := {rules with switches := rules.switches.setIfInBounds switch.ctorIdx val}

end RuleSet

/-! ## Directives -/

structure CmtComplaint where
 msg : String
 span : Span

namespace RuleSet

def raise (rules higher : RuleSet) : RuleSet :=
 let rules := Switch.overridable.foldl (fun rules switch =>
  if higher.isOn switch then rules.setSwitch switch true else rules) rules
 Rule.all.foldl (fun rules rule =>
  if rule == .missingModSrc then rules
  else
   let raised : Bool := match higher.level rule, rules.level rule with
    | .error, _ => true
    | .warning, cur => cur != .error
    | .information, cur => cur != .error && cur != .warning
    | .none, _ => false
   if raised then rules.setLevel rule (higher.level rule) else rules) rules

def overwrite (rules other : RuleSet) : RuleSet :=
 let rules := Switch.overridable.foldl (fun rules switch => rules.setSwitch switch (other.isOn switch)) rules
 Rule.all.foldl (fun rules rule => rules.setLevel rule (other.level rule)) rules

def applyMode (rules : RuleSet) : CheckingMode -> RuleSet
 | .strict => rules.raise (.ofMode .strict)
 | mode => rules.overwrite (.ofMode mode)

end RuleSet
namespace Directives

def levelOfWord? : String -> Option Level
 | "false" | "none" => some .none
 | "true" | "error" => some .error
 | "warning" => some .warning
 | "information" => some .information
 | _ => none

def switchOfWord? : String -> Bool?
 | "false" => false
 | "true" => true
 | _ => none

def modes : List CheckingMode := [.strict, .standard, .basic]

structure State where
 rules : RuleSet
 complaints : Array CmtComplaint := #[]

variable (state : State)
def State.complain (msg : String) (span : Span) := {state with complaints := state.complaints.push ⟨msg, span⟩}

/-- What to set, or what to complain of, and whether of the value if there is one. -/
def judge (rule val : Text) : Except (String × Bool) (RuleSet -> RuleSet) :=
 let name := Text.toString rule
 let word := Text.toString val
 match Rule.ofName? name, Switch.overridable.find? (·.name == name) with
 | some known, _ =>
  if let some level := levelOfWord? word then .ok (·.setLevel known level)
  else .error (say "cmtLevelInvalid", true)
 | none, some known =>
  if let some setting := switchOfWord? word then .ok (·.setSwitch known setting)
  else .error (say "cmtSwitchInvalid", true)
 | none, none =>
  .error (if rule.isEmpty then say "cmtDirGone" else say (if val.isEmpty then "cmtDirUnk" else "cmtRuleUnk") [name], false)

variable (operand : Text)
/-- What stands before the first equals sign. -/
def ruleIn : Text := operand.takeWhile (· != unitOf '=')

/-- What stands behind it. -/
def valIn : Text := operand.slice ((ruleIn operand).size + 1) operand.size

def readOperand? (operand : Part) : Option State := do
 let operand <- operand.trim?
 let text := ruleIn operand.text
 let rule <- Part.trim? ⟨text, operand.span.start, text.size⟩
 if text.size == operand.text.size && modes.any (·.name == Text.toString rule.text) then return state
 let rest := valIn operand.text
 let val <- Part.trim? ⟨rest, operand.span.start + (text.size + 1), rest.size⟩
 return match judge rule.text val.text with
  | .ok set => {state with rules := set state.rules}
  | .error (msg, inVal) => state.complain msg (if inVal && !val.text.isEmpty then val else rule).span

def introduction := "pyright:"
def misplaced := say "cmtNotOnOwnLine" ++ (Adden.empty.say "ignoreCmtTip").print

def setMode (list : List Text) : State :=
 match modes.find? fun mode => list.any fun operand => Text.toString operand.trim == mode.name with
 | some mode => {state with rules := state.rules.applyMode mode}
 | none => state

def operands (content : Text) := (content.slice introduction.length content.size).split (unitOf ',')

def readCmt? (lines : LineTable) (state : State) (cmt : Cmt) : Option State := do
 let part <- Part.trim? ⟨cmt.value, cmt.span⟩
 let length := introduction.length
 if !part.text.hasAt introduction 0 || (part.text.slice length part.text.size).trim.hasAt "ignore" 0 then return state
 let ownLine := (lines.posOf cmt.span.start).char <= 1
 let list := operands part.text
 (partsFrom (part.span.start + length) list).foldlM readOperand?
  (setMode (if ownLine then state else state.complain misplaced part.span) list)

end Directives
namespace RuleSet
variable (rules : RuleSet) (useStrict : Bool) (tokenized : TokenizedText)
def ofCmts? := do
 let state <- (cmtsOf tokenized.tokens).foldlM (Directives.readCmt? tokenized.lines)
  {rules := if useStrict then rules.applyMode .strict else rules}
 some (state.rules, state.complaints)

def ofCmts := (ofCmts? rules useStrict tokenized).getD (rules, #[])

end RuleSet
end TypeChecker
