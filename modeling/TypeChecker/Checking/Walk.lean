import TypeChecker.Checking.Class
import TypeChecker.Checking.Statement
import TypeChecker.Checking.Function
import TypeChecker.Checking.Symbol
import TypeChecker.Infer.Expression
import TypeChecker.Library.Stubs

/-! The walk over a file that evaluates all of it and checks each node. -/

namespace TypeChecker
namespace DiagCat

def isHint : DiagCat -> Bool
 | .unusedCode | .unreachCode | .deprecated => true
 | _ => false

def isFinding : DiagCat -> Bool
 | .error | .warning | .information => true
 | _ => false

end DiagCat

structure LineSilence where
 (directives unused : Array (Nat × Directive))

namespace LineSilence

def ofDirectives (directives : Array (Nat × Directive)) : LineSilence := {directives, unused := directives}

variable (silence : LineSilence)
def find? (range : LineRange) :=
 let isWithin ent := range.start.line <= (ent.1 : Int) && (ent.1 : Int) <= range.stop.line
 (silence.directives.filter isWithin).foldl (fun first ent => if let some old := first then
   if ent.1 < old.1 then some ent else some old
  else ent) none

variable (line : Nat)
def use := {silence with unused := silence.unused.filter (·.1 != line)}

def useRule (rule : Text) : LineSilence :=
 {silence with unused := silence.unused.filterMap fun ent =>
  if ent.1 != line then some ent
  else match ent.2.rules with
   | none => ent
   | some rules =>
    let lhs := rules.filter (·.text != rule)
    if lhs.isEmpty then none else some (line, {ent.2 with rules := lhs})}

def silences (diag : Diag) :=
 if diag.cat.isHint then (false, silence)
 else match silence.find? diag.range, diag.rule with
  | none, _ => (false, silence)
  | some (line, {rules := none, ..}), _ => (true, silence.use line)
  | some _, none => (false, silence)
  | some (line, {rules := some rules, ..}), some rule =>
   let rule := .ofString rule
   if rules.any (·.text == rule) then (true, silence.useRule line rule) else (false, silence)

def filter (hit : List Diag) :=
 let (kept, silence) := hit.foldl (fun (kept, silence) diag =>
  let (isSilent, silence) := silence.silences diag
  (if isSilent then kept else diag :: kept, silence)) ([], silence)
 (kept.reverse, silence)

end LineSilence

def unneededCmts (all : Option Directive) (general byRule : LineSilence) :=
 let whole directive := (directive.span, (say "idleTyIgnore"))
 all.toList.map whole ++ general.unused.toList.map (whole ·.2) ++
  byRule.unused.toList.flatMap fun (_, directive) => match directive.rules with
   | none => [whole directive]
   | some rules => rules.toList.map fun rule =>
    (rule.span, say "idleIgnoreRule" [Text.toString rule.text])

def heedCmts (rules : RuleSet) (tokenized : TokenizedText) (hit : List Diag) : List Diag :=
 let areGeneral := rules.isOn .enableTyIgnoreCmts
 let general := LineSilence.ofDirectives (if areGeneral then tokenized.typeIgnoreLines.map fun (line, directive) =>
  (line, {directive with rules := none}) else #[])
 let (kept, general) := general.filter hit
 let (kept, byRule) := (LineSilence.ofDirectives tokenized.ruleIgnoreLines).filter kept
 let all := if areGeneral then tokenized.typeIgnoreAll else none
 let unneeded := (rules.level .idleTyIgnoreCmt).cat?.elim [] fun cat =>
   let idle := if hit.any (·.cat.isFinding) then none else all
   (unneededCmts idle general byRule).filterMap fun (span, msg) =>
    let range := tokenized.lines.rangeOf span
    let isDead := hit.any fun other => other.cat == .unreachCode &&
     other.range.start.line <= range.start.line && range.stop.line <= other.range.stop.line
    if isDead then none else some {cat, msg, range, rule := (Rule.name .idleTyIgnoreCmt)}
 (if all.isSome then kept.filter (!·.cat.isFinding) else kept) ++ unneeded

namespace Check
open Infer
variable [Evals]
def firstSpan (stmt : Node) :=
 let token := match stmt.kind with
  | .stmtList token _ | .ifStmt token .. | .whileStmt token .. | .matchStmt token ..
  | .tyAlias token .. => some token
  | .fnDef {firstToken := token, ..} | .clsDef {firstToken := token, ..} | .forStmt {firstToken := token, ..}
  | .withStmt {firstToken := token, ..} | .tryStmt {firstToken := token, ..} => token
  | _ => none
 token.elim stmt.span (·.span)

variable (walk : Node -> Act)
def walkStmts (stmts : Nodes) : Act := do
 let mut isMarked := false
 let mut prev := none
 for stmt in stmts do
  if !isMarked then
   let reach <- reachOf stmt prev
   if reach != .reachable then
    isMarked := true
    let stop := stmts.getLast?.elim stmt.stop (·.stop)
    if reach != .staticCond then
     reportSpan stmt .dead (if reach == .structural then say "deadCodeStructure" else say "deadCodeTy") (firstSpan stmt)
    reportUnreached stmt reach {start := stmt.start, length := stop - stmt.start}
   else if <- inStub stmt then checkStubStmt stmt
  walk stmt
  prev := stmt

variable (node : Node) (parts : FnParts Node)
def walkCls (parts : ClsParts Node) : Act := do
 let made <- Evals.tyOfCls node
 parts.tyPars.forM walk
 walk parts.suite
 parts.decos.forM walk
 parts.args.forM walk
 if let some {clsTy := ty, ..} := made then
  let flags <- flagsOf ty
  if flags.proto then
   checkProtoBases parts ty
   checkProtoVariance parts ty
  if !(<- inStub node) then checkSlots ty
  checkOverrides ty
  checkClosedBases ty
  checkOvlMarks ty
  checkBases ty parts.name
  checkMixedBases ty parts.name
  checkConstructors ty parts.name
  checkFinalFields ty
  checkUnset parts ty
  checkFinalComplete parts ty
  checkPostInit ty
  checkEnumMems parts ty
  if flags.tdict then checkTdictSuite parts.suite
  if flags.enum then checkEnumBases parts ty
  checkSubclassArgs node ty
 remember node

def checkOvls (res : FnTyRes) : Act := do
 let ty := res.fnTy
 let all := res.decorated
 let isThis other := other.isFn && other.fn.decl.isSome && other.fn.decl == ty.fn.decl
 if !all.isOvld || !(all.ovls ++ all.impl?.toList).any isThis then return
 if !all.impl?.any isThis then
  if let last :: prev := all.ovls.reverse then
   if !prev.isEmpty && prev.length < 99 then checkOverlap parts last prev.reverse
 checkOvlKinds parts all

def walkFn : Act := do
 parts.tyPars.forM walk
 let file <- fileOf node
 let name := parts.name
 if !(<- isOn node .analyzeBareFns) && !file.isStub && Node.isUnannotated parts then
  reportInformation (say "bareFnSkipped" [name.nameVal]) name
 let res <- Evals.tyOfFn node
 let ty := res.map (·.fnTy)
 let owner := (<- tree).enclCls? node true
 if let some ty := ty then
  checkPars parts ty
  if let some owner := owner then checkMeth parts ty owner
 for (node, idx) in parts.pars.zipIdx do
  let some par := node.parParts? | continue
  (par.dfltVal.toList ++ par.hint.toList ++ par.hintCmt.toList).forM walk
  if let some ty := ty then if owner.isSome then checkParVariance par ty idx
 parts.retHint.forM walk
 if let some cmt := parts.hintCmt then
  walk cmt
  if file.ver.isAtLeast (.three 5) then flag .tyCmtUsage "tyCommentOld" cmt
 parts.decos.forM walk
 for node in parts.pars do (node.parParts?.bind (·.name)).forM walk
 let isTooComplex <- isTooComplex parts.suite
 if isTooComplex then blame "codeTooComplex" name else walk parts.suite
 if let some res := res then
  let ty := res.fnTy
  if !isTooComplex then checkRet node parts ty
  if owner.isSome then checkInitReturn parts ty
  checkTyGuard parts ty owner.isSome
  checkTyVarUse node parts res
  checkGen node parts ty
  if res.decorated.isObj && (<- flagsOf res.decorated).clsProp then reportStale name (say "clsPropOld")
  if owner.isNone && ty.fn.flags.final then blame "finalNonMeth" name [name.nameVal]
 if file.isStub && name.nameVal == "__getattr__" && (<- scopeKindOf? node) == some .mod then
  flag .draftStub "stubUsesGetAttr" name
 remember node
 if let some res := res then checkOvls parts res

def walkLambda (pars : Nodes) (body : Node) : Act := do
 touch node
 pars.forM walk
 walk body
 for par in pars do
  let some name := par.parParts?.bind (·.name) | continue
  let some ty <- tyAt? name | continue
  if ty.isUnk then flag .unkLambdaTy "paramTyUnk" name [name.nameVal]
  else if (<- univ).isPartlyUnk ty then flag .unkLambdaTy "paramTyPartlyUnk" name [name.nameVal]
 if let some ty <- tyAt? body then checkKnown .unkLambdaTy "lambdaReturnTy" ty body
 remember node

def visitYieldFrom (expr : Node) : Act := do
 let src := (<- tyAt? expr).getD .unk
 if isCoro src then return <- checkYielded node expr .unk none
 let iterator := (<- iterOf src false node).elim .unk (·.ty)
 if let some args := Univ.genArgs? iterator then checkYielded node expr ((args[0]?).getD .unk) none args[1]?
 else checkYielded node expr ((<- iterated src false node).elim .unk (·.ty)) none

def refuseHint (cmt : Token?) := cmt.forM fun cmt => reportSpan node .invalidTyForm (say "annotBarred") cmt

def isAliasScope : Ask := return (<- scopeKindOf? node).all fun kind => kind matches .clsDef | .mod | .builtin

def visitAssign (lhs : Node) (cmt : Node?) : Act := do
 Evals.evalStmt node
 if let some cmt := cmt then
  touch cmt
  if (<- fileOf node).ver.isAtLeast (.three 6) then flag .tyCmtUsage "tyCommentOld" cmt
 if let .annot _ hint := lhs.kind then
  let ty <- Evals.tyOfAnnot hint {}
  if ty.isObjOf "TypeAlias" && !(<- isAliasScope node) then blame "tyAliasNotInModOrCls" hint

def visitMem (lhs mem : Node) : Act := do
 let res <- resAt? mem
 let isTyping := if let some (.mod data) := (<- tyAt? lhs).map (·.form) then
   data.name == "typing" || data.name == "typing_extensions"
  else false
 checkStaleTy mem (some (res.elim .unk (·.ty))) isTyping
 if let some info := res.bind (·.accessDepr) then checkStaleAccess mem info
 checkPrivUse mem
 walk lhs

variable (name : Node)
def checkSubmoduleSrc : Act := do
 let some (.importFrom {modName := {kind := .modName dots .., ..}, ..}) <- parentKind? node | return
 let places := (<- get).project.places
 let file := (<- fileOf node).path
 let results <- (<- refsAt name).filterMapM fun hit => do
  let (.importAlias _ (some _), some id) := (hit.decl.kind, hit.id) | pure none
  if hit.decl.node != node then return none
  let tgt := ((<- resolveAlias id true false).bind (·.decl)).bind (·.uri.path?)
  let some tgt := tgt.filter (·.endsWith ".pyi") | pure none
  let mod := if dots == 0 then (places.modOf tgt).name
   else (RelativeName.between? (.ofPath file) (.ofPath tgt)
    ((places.lib :: places.stubs.toList).map (.ofPath ·)) false true).getD ""
  return if mod == "" then none else places.resolve file (.ofString mod)
 results.head?.forM (checkSrcOf name)

def visitImportedName (asName : Node?) : Act := do
 if (<- inStub node) || (<- isLhsOut name) then return
 checkSubmoduleSrc node name
 let isTyping := match <- parentKind? node with
  | some (.importFrom {modName := {kind := .modName 0 [part] _, ..}, ..}) =>
   ["typing", "typing_extensions"].contains part.nameVal
  | _ => false
 checkStaleTy name (<- tyAt? (asName.getD name)) isTyping

def visitTyPar : Act := do
 let isNamed pars := pars.any (·.shared.name == name.nameVal)
 let anc <- tree
 let rec search : Nat -> Node? -> Ask
  | 0, _ | _, none => pure false
  | fuel + 1, some cur => do
   let some scope := anc.tyVarScope? cur | pure false
   let hit <- match scope.kind with
    | .clsDef _ => do
     let made <- Evals.tyOfCls scope
     let u <- univ
     pure (made.any fun made => isNamed (u.tyPars made.clsTy))
    | .fnDef _ => do pure ((<- Evals.tyOfFn scope).any (isNamed ·.fnTy.fn.tyPars))
    | _ => pure false
   if hit then return true
   search fuel (anc.parent? scope)
 let outer := (anc.properAncestors node)[2]?
 if <- search Node.maxHeight outer then blame "tyVarOuter" name [name.nameVal]

def visit (walkQuietly : Node -> Act) (isQuiet : Bool) (node : Node) : Ask := do
 match node.kind with
 | .suite stmts _ => walkStmts walk stmts; return false
 | .stmtList _ stmts =>
  for stmt in stmts do
   if stmt.isExpr then
    touch stmt
    checkUnusedExpr stmt
 | .clsDef parts => walkCls walk node parts; return false
 | .fnDef parts => walkFn walk node parts; return false
 | .lambda pars body => walkLambda walk node pars body; return false
 | .call callee args _ =>
  checkInstTest node callee args
  checkDfltCall node
  checkAliasCall callee
  checkLostRes node callee
 | .await _ expr _ =>
  if let .call .. := expr.kind then if (<- isReported .unusedCallRes node) && (<- isStmt node) then checkUnusedRes node
 | .forStmt parts =>
  Evals.evalStmt node
  refuseHint node parts.tyCmt
 | .list _ | .set _ | .dict .. => checkDfltCall node
 | .compr .. => remember node
 | .comprIf test | .ifStmt _ test .. | .whileStmt _ test .. => checkTest test
 | .withStmt parts =>
  parts.items.forM Evals.evalStmt
  refuseHint node parts.tyCmt
 | .returnStmt expr => checkReturn node expr
 | .yieldExpr expr =>
  let res <- if let some expr := expr then resAt? expr else do pure (Typed.ofTy (<- noneTy))
  checkYielded node expr (res.elim .unk (·.ty)) (res.bind (·.wantDiag))
 | .yieldFrom expr => visitYieldFrom node expr
 | .raiseStmt expr fromExpr =>
  expr.forM (checkRaised · false)
  fromExpr.forM (checkRaised · true)
 | .exceptClause parts =>
  if let some expr := parts.tyExpr then
   Evals.evalStmt node
   if let some ty <- tyAt? expr then checkCaught ty expr parts.isGroup
 | .assertStmt test exc =>
  exc.forM touch
  checkAssertion test
 | .assignment lhs _ cmt _ => visitAssign node lhs cmt
 | .walrus .. | .slice .. | .unpack .. | .tup .. => touch node
 | .augmented _ _ _ dest => checkStale dest (<- resAt? node)
 | .idx lhs items trailComma => checkIdx node lhs items trailComma
 | .binary lhs _ op rhs _ =>
  if !(<- tree).isInAssertTest node then
   match op with
   | .equals | .notEquals | .is | .isNot => checkCompare node lhs rhs op
   | .isIn | .notIn => checkContainment node lhs rhs op
   | _ => pure ()
  checkStale lhs (<- resAt? node)
 | .unary _ op expr _ =>
  if op == .not then checkCond expr
  checkStale expr (<- resAt? node)
 | .ternary _ test _ =>
  touch node
  checkTest test
 | .strList strings hint hasParens => checkStrings node strings hint.isSome hasParens
 | .formatStr _ _ fields formats => (fields ++ formats).forM touch
 | .globalStmt tgts =>
  for name in tgts do
   touch name
   walkQuietly name
  return false
 | .nonlocalStmt tgts =>
  for name in tgts do
   touch name
   walkQuietly name
   if let some hit <- lookUpName name name.nameVal false then
    if ((<- get).scopes.scope hit.scope).kind == .tyPar then blame "nonlocalTyPar" name [name.nameVal]
  return false
 | .name .. =>
  checkPrivUse node
  if !isQuiet then checkBound node
  checkStaleTy node (<- tyAt? node)
 | .delStmt tgts =>
  for tgt in tgts do
   delete tgt
   walk tgt
  return false
 | .memAccess lhs mem => visitMem walk lhs mem; return false
 | .importAs _ _ =>
  Evals.evalStmt node
  remember node
 | .importFrom parts =>
  if let .modName 0 [part] _ := parts.modName.kind then
   if part.nameVal == "__future__" && !(<- tree).isFutureImportPlace node then
    blame "futureImpPlaceBad" node
  if parts.isWildcard then
   Evals.evalStmt node
   checkWild node parts
  else parts.imports.forM Evals.evalStmt
 | .importFromAs name asName => visitImportedName node name asName; return false
 | .modName .. => checkSrc node; return false
 | .tyParList _ => remember node
 | .tyPar name .. => visitTyPar node name; return false
 | .tyAlias _ name .. => if !(<- isAliasScope node) then blame "tyAliasStmtBadScope" name
 | .annot _ hint => touch hint
 | .matchStmt _ subj _ =>
  touch subj
  checkFull node subj
 | .caseClause pat _ guard _ =>
  guard.forM checkCond
  Evals.evalStmt pat
 | .patCls name args => checkClsPat name args
 | .tryStmt parts => checkUnusedClauses parts.clauses
 | .error _ child _ => child.forM touch; return false
 | _ => pure ()
 pure true

def walkIn : Nat -> Bool -> Node -> Act
 | 0, _, _ => return
 | fuel + 1, isQuiet, node => do
  let walk := walkIn fuel isQuiet
  let step := do if <- visit walk (walkIn fuel true) isQuiet node then (<- kidsOf node).forM walk
  if <- isLhsOut node then discard (muting node false step) else step

def checkMod (mod : Node) : Act := do
 remember mod
 let file <- fileOf mod
 if (<- get).project.places.isStandardMod file.modName then
  reportSpan mod .shadowedImports (say "stdlibModHidden" [file.path, file.modName]) mod
 if <- isTooComplex mod then reportSpan mod .general (say "codeTooComplex") {start := 0, length := 0}
 walkStmts (walkIn Node.maxHeight false) mod.stmts
 checkExports mod
 let walked := (<- get).walked.toList
 let isImport node := node.kind matches .importAs ..
 checkSyms (walked.filter (!isImport ·))
 (walked.filter isImport).forM checkDottedImport
 checkRepeatedImports mod

end Check

structure CheckRequest where
 path := "/proj/main.py"
 text : String
 project : Project := {}
 (namesFirst wantsTys : Bool := false)

structure CheckRes where
 diags : List Diag
 tys : Option (Array (Node × String?)) := none
 mixesNums := false

def ImportPlaces.treeOf (files : ByName String) : FileTree :=
 let places : ImportPlaces := {tree := {}}
 .ofList ((Lib.files.get.map fun (name, text) => (places.lib ++ "/" ++ name, text)) ++ files)

def CheckRequest.world (request : CheckRequest) : World :=
 let places := request.project.places
 let places := {places with tree := places.tree.add request.path request.text}
 {project := {request.project with places := places.mergePartialStubs}
  origins := .ofList [(request.path, {})]}

namespace Check
open Infer
def maxDepth := 1000
@[reducible, noinline] def evals : Evals := .ofDepth maxDepth
def isName (node : Node) := node.kind matches .name ..

def allDiags (rules : RuleSet) (bound : BoundMod) (hit : Array Diag) : List Diag :=
 let cmts := (rules.ofCmts false bound.src.tokenized).2.map fun complaint =>
  {cat := .error, msg := complaint.msg, range := bound.src.lines.rangeOf complaint.span : Diag}
 heedCmts bound.file.rules bound.src.tokenized (bound.src.diags ++ cmts ++ bound.diags ++ hit).toList

section
variable [Evals]
def nodesWithin : Nat -> Nodes -> Array Node -> Eval (Array Node)
 | 0, _, hit | _, [], hit => pure hit
 | fuel + 1, node :: rest, hit => do nodesWithin fuel ((<- kidsOf node) ++ rest) (hit.push node)

def tyTextAt? (node : Node) : Eval String? := do
 let some ty <- tyAt? node | pure none
 printTy ty {}

variable (bound : BoundMod)
def nodesIn := nodesWithin Node.maxCount [bound.src.tree] #[]
def namesIn := return (<- nodesIn bound).filter isName
def tysIn := do (<- namesIn bound).mapM fun name => return (name, <- tyTextAt? name)

def loaded? (path : String) := do
 let some block <- loadMod path | pure none
 pure ((<- get).mods[block]?).join

def findingsIn : Eval (Array Diag) := do
 prefetch bound.src.tree
 checkMod bound.src.tree
 let hit := (((<- get).sinks[bound.block]?).map (·.diags)).getD #[]
 modify fun s => {s with sinks := s.sinks.erase bound.block, walked := #[]}
 pure hit

def checkFile (request : CheckRequest) : Eval (Option CheckRes) := do
 let some bound <- loaded? request.path | pure none
 prefetch bound.src.tree
 if request.namesFirst then (<- namesIn bound).forM touch
 let hit <- findingsIn bound
 let tys <- if request.wantsTys then some <$> tysIn bound else pure none
 return some {diags := allDiags request.project.rules bound hit, tys, mixesNums := (<- get).mixesNums}

end
end Check

def CheckRequest.run? (request : CheckRequest) : Option CheckRes :=
 (@Check.checkFile Check.evals request |>.run request.world).1

end TypeChecker
