import TypeChecker.Token.Basic

/-! Parse trees. -/

namespace TypeChecker

inductive ErrorCat where
 | missingIn | missingElse | missingExpr | missingIdxOrSlice | missingDecoCallName
 | missingCallCloseParen | missingIdxCloseBracket | missingMemAccessName
 | missingTupCloseParen | missingListCloseBracket | missingFnParList
 | missingPat | missingPatSubj | missingDictVal | missingKwArgVal
 | maxDepthExceeded
 deriving DecidableEq

def ErrorCat.name (cat : ErrorCat) :=
 (words "MissingIn MissingElse MissingExpression MissingIndexOrSlice MissingDecoratorCallName MissingCallCloseParen
MissingIndexCloseBracket MissingMemberAccessName MissingTupleCloseParen MissingListCloseBracket
MissingFunctionParameterList MissingPattern MissingPatternSubject MissingDictValue MissingKeywordArgValue
MaxDepthExceeded").getD cat.ctorIdx ""

inductive ParCat where
 | simple | argsList | kwargsDict
 deriving DecidableEq

def ParCat.name : ParCat -> String
 | .simple => "Simple" | .argsList => "ArgsList" | .kwargsDict => "KwargsDict"

inductive ArgCat where
 | simple | unpList | unpDict
 deriving DecidableEq

def ArgCat.name : ArgCat -> String
 | .simple => "Simple" | .unpList => "UnpackedList"
 | .unpDict => "UnpackedDictionary"

inductive TyParKind where
 | tyVar | tyVarTup | parSpec
 deriving DecidableEq

def TyParKind.name : TyParKind -> String
 | .tyVar => "TypeVar" | .tyVarTup => "TypeVarTuple" | .parSpec => "ParamSpec"

/-! Shapes with many parts. -/

structure FnParts (α : Type) where
 firstToken : Token
 decos : List α := []
 isAsync := false
 name : α
 tyPars : Option α := none
 pars : List α := []
 (retHint hintCmt : Option α := none)
 suite : α

structure ClsParts (α : Type) where
 firstToken : Token
 decos : List α := []
 name : α
 tyPars : Option α := none
 args : List α := []
 suite : α

structure ParParts (α : Type) where
 cat : ParCat
 (name hint hintCmt dfltVal : Option α := none)

structure ForParts (α : Type) where
 firstToken : Token
 asyncToken : Token? := none
 (tgt iterable suite : α)
 orElse : Option α := none
 tyCmt : Token? := none

structure WithParts (α : Type) where
 firstToken : Token
 asyncToken : Token? := none
 items : List α := []
 suite : α
 tyCmt : Token? := none

structure TryParts (α : Type) where
 firstToken : Token
 suite : α
 clauses : List α := []
 (orElse finalSuite : Option α := none)

structure ExceptParts (α : Type) where
 (tyExpr name : Option α := none)
 suite : α
 isGroup : Bool
 token : Token

structure ImportFromParts (α : Type) where
 modName : α
 imports : List α := []
 (isWildcard usesParens : Bool := false)
 wildcardToken : Token? := none
 missingImport := false

inductive NodeKind (α : Type) where
 | error (cat : ErrorCat) (child : Option α) (decos : List α)
 | arg (cat : ArgCat) (name : Option α) (val : α)
 | assertStmt (test : α) (exc : Option α)
 | assignment (lhs rhs : α) (hintCmt chainedCmt : Option α)
 | walrus (name : α) (walrusToken : Token) (rhs : α) (hasParens : Bool)
 | augmented (lhs : α) (op : Op) (rhs dest : α)
 | await (awaitToken : Token) (expr : α) (hasParens : Bool)
 | binary (lhs : α) (opToken : Token) (op : Op) (rhs : α) (hasParens : Bool)
 | breakStmt
 | call (lhs : α) (args : List α) (trailComma : Bool)
 | clsDef (parts : ClsParts α)
 | compr (expr : α) (forIfs : List α) (isGen hasParens : Bool)
 | comprFor (asyncToken : Token?) (tgt iterable : α)
 | comprIf (test : α)
 | const (kw : Kw)
 | continueStmt
 | deco (expr : α)
 | delStmt (tgts : List α)
 | dict (items : List α) (trailComma : Token?)
 | dictExpandEnt (expr : α)
 | dictKeyEnt (key val : α)
 | ellipsis
 | ifStmt (firstToken : Token) (test body : α) (orElse : Option α)
 | importStmt (list : List α)
 | importAs (modName : α) (asName : Option α)
 | importFrom (parts : ImportFromParts α)
 | importFromAs (name : α) (asName : Option α)
 | idx (lhs : α) (items : List α) (trailComma : Bool)
 | exceptClause (parts : ExceptParts α)
 | forStmt (parts : ForParts α)
 | formatStr (token : Token) (middleTokens : List Token) (fields formats : List α)
 | fnDef (parts : FnParts α)
 | globalStmt (tgts : List α)
 | lambda (pars : List α) (expr : α)
 | list (items : List α)
 | memAccess (lhs mem : α)
 | modNode (stmts : List α)
 | modName (leadingDots : Nat) (nameParts : List α) (hasTrailDot : Bool)
 | name (val : String) (token : Token)
 | nonlocalStmt (tgts : List α)
 | number (val : NumVal) (imag : Bool)
 | par (parts : ParParts α)
 | passStmt
 | raiseStmt (expr fromExpr : Option α)
 | returnStmt (expr : Option α)
 | set (items : List α)
 | slice (start stop step : Option α)
 | stmtList (firstToken : Token) (stmts : List α)
 | strList (strings : List α) (fwdRef : Option α) (hasParens : Bool)
 | string (token : Token) (val : Text)
 | suite (stmts : List α) (tyCmt : Token?)
 | ternary (ifExpr test elseExpr : α)
 | tup (items : List α) (hasParens : Bool)
 | tryStmt (parts : TryParts α)
 | annot (val hint : α)
 | unary (opToken : Token) (op : Op) (expr : α) (hasParens : Bool)
 | unpack (starToken : Token) (expr : α)
 | whileStmt (firstToken : Token) (test suite : α) (orElse : Option α)
 | withStmt (parts : WithParts α)
 | withItem (expr : α) (tgt : Option α)
 | yieldExpr (expr : Option α)
 | yieldFrom (expr : α)
 | fnTyCmt (isEllipsis : Bool) (pars : List α) (retHint : α)
 | matchStmt (firstToken : Token) (expr : α) (cases : List α)
 | caseClause (pat : α) (isIrrefutable : Bool) (guard : Option α) (suite : α)
 | patSequence (ents : List α) (starIdx : Nat?)
 | patAs (orPats : List α) (tgt : Option α)
 | patLit (expr : α)
 | patCls (clsName : α) (args : List α)
 | patCapture (tgt : α) (isStar isWildcard : Bool)
 | patMapping (ents : List α)
 | patKeyEnt (key val : α)
 | patExpandEnt (tgt : α)
 | patVal (expr : α)
 | patClsArg (name : Option α) (pat : α)
 | tyPar (name : α) (kind : TyParKind) (bound dfltExpr : Option α)
 | tyParList (pars : List α)
 | tyAlias (firstToken : Token) (name : α) (tyPars : Option α) (expr : α)

namespace NodeKind
variable {α : Type}
def displayName (kind : NodeKind α) :=
 (words "Error Argument Assert Assignment AssignmentExpression AugmentedAssignment Await BinaryOperation Break Call Class
Comprehension ComprehensionFor ComprehensionIf Constant Continue Decorator Del Dictionary DictionaryExpandEntry
DictionaryKeyEntry Ellipsis If Import ImportAs ImportFrom ImportFromAs Index Except For FormatString Function
Global Lambda List MemberAccess Module ModuleName Name Nonlocal Number Parameter Pass Raise Return Set Slice
StatementList StringList String Suite Ternary Tuple Try TypeAnnotation UnaryOperation Unpack While With WithItem
Yield YieldFrom FunctionAnnotation Match Case PatternSequence PatternAs PatternLiteral PatternClass PatternCapture
PatternMapping PatternMappingKeyEntry PatternMappingExpandEntry PatternValue PatternClassArgument TypeParameter
TypeParameterList TypeAlias").getD kind.ctorIdx ""

def kids : NodeKind α -> List α
 | .error _ child decos => child.toList ++ decos
 | .arg _ label val => label.toList ++ [val]
 | .assertStmt test exc => test :: exc.toList
 | .assignment lhs rhs cmt _ => lhs :: rhs :: cmt.toList
 | .walrus lhs _ rhs _ | .augmented lhs _ rhs _ | .binary lhs _ _ rhs _ | .comprFor _ lhs rhs | .dictKeyEnt lhs rhs
 | .memAccess lhs rhs | .annot lhs rhs | .patKeyEnt lhs rhs => [lhs, rhs]
 | .await _ expr _ | .comprIf expr | .deco expr | .dictExpandEnt expr | .unary _ _ expr _ | .unpack _ expr
 | .yieldFrom expr | .patLit expr | .patCapture expr _ _ | .patExpandEnt expr | .patVal expr => [expr]
 | .breakStmt | .const _ | .continueStmt | .ellipsis | .name .. | .number .. | .passStmt | .string .. => []
 | .call first rest _ | .compr first rest _ _ | .idx first rest _ | .matchStmt _ first rest
 | .patCls first rest => first :: rest
 | .clsDef parts => parts.decos ++ [parts.name] ++ parts.tyPars.toList ++ parts.args ++ [parts.suite]
 | .delStmt items | .dict items _ | .importStmt items | .globalStmt items | .list items | .modNode items
 | .modName _ items _ | .nonlocalStmt items | .set items | .stmtList _ items | .suite items _ | .tup items _
 | .patSequence items _ | .patMapping items | .tyParList items => items
 | .ifStmt _ test body orElse | .whileStmt _ test body orElse => test :: body :: orElse.toList
 | .importAs src asName | .importFromAs src asName | .withItem src asName => src :: asName.toList
 | .importFrom parts => parts.modName :: parts.imports
 | .exceptClause parts => parts.tyExpr.toList ++ parts.name.toList ++ [parts.suite]
 | .forStmt parts => [parts.tgt, parts.iterable, parts.suite] ++ parts.orElse.toList
 | .formatStr _ _ fields formats => fields ++ formats
 | .fnDef parts =>
  parts.decos ++ [parts.name] ++ parts.tyPars.toList ++ parts.pars ++
   parts.retHint.toList ++ parts.hintCmt.toList ++ [parts.suite]
 | .lambda pars expr | .fnTyCmt _ pars expr => pars ++ [expr]
 | .par parts => parts.name.toList ++ parts.hint.toList ++ parts.hintCmt.toList ++ parts.dfltVal.toList
 | .raiseStmt expr fromExpr => expr.toList ++ fromExpr.toList
 | .returnStmt expr | .yieldExpr expr => expr.toList
 | .slice start stop step => start.toList ++ stop.toList ++ step.toList
 | .strList strings fwdRef _ => fwdRef.toList ++ strings
 | .ternary ifExpr test elseExpr => [ifExpr, test, elseExpr]
 | .tryStmt parts => parts.suite :: (parts.clauses ++ parts.orElse.toList ++ parts.finalSuite.toList)
 | .withStmt parts => parts.items ++ [parts.suite]
 | .caseClause pat _ guard body => pat :: (guard.toList ++ [body])
 | .patAs orPats tgt => orPats ++ tgt.toList
 | .patClsArg label pat => label.toList ++ [pat]
 | .tyPar label _ bound dfltExpr => label :: (bound.toList ++ dfltExpr.toList)
 | .tyAlias _ label tyPars expr => label :: (tyPars.toList ++ [expr])

def isExpr : NodeKind α -> Bool
 | .error .. | .unary .. | .binary .. | .walrus ..
 | .annot .. | .await .. | .ternary .. | .unpack .. | .tup .. | .call ..
 | .compr .. | .idx .. | .slice .. | .yieldExpr .. | .yieldFrom .. | .memAccess ..
 | .lambda .. | .name .. | .const .. | .ellipsis | .number .. | .string .. | .formatStr ..
 | .strList .. | .dict .. | .list .. | .set .. => true
 | _ => false

end NodeKind

structure Node where
 id : Nat
 span : Span
 kind : NodeKind Node

instance : Coe Node Span := ⟨(·.span)⟩
abbrev Node? := Option Node
abbrev Nodes := List Node

namespace Node

instance : Inhabited Node := ⟨⟨0, ⟨0, 0⟩, .passStmt⟩⟩
instance : BEq Node := ⟨fun lhs rhs => lhs.id == rhs.id⟩

variable (node : Node)
@[inline] def start := node.span.start
@[inline] def stop := node.span.stop
def kids := node.kind.kids
def kindName := node.kind.displayName
def ref := node.kindName ++ "@" ++ node.start.repr ++ "+" ++ node.span.length.repr
def isExpr := node.kind.isExpr
def kindOf? (node : Node?) := node.map (·.kind)
def isError := node.kind matches .error ..
def extend (span : Span) := {node with span := node.span.extend span}
def extendOver (other : Node) := node.extend other.span
def extendTo (token : Token) := node.extend token.span
def nameVal? : String? := if let .name val _ := node.kind then val else none
def nameVal := node.nameVal?.getD ""

end Node
end TypeChecker
