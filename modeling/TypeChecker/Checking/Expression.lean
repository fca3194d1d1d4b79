import TypeChecker.Infer.Declaration
import TypeChecker.Infer.Narrow.Pattern

/-! Checks of single expressions: conditions, comparisons, unused values, indexes, strings. -/

namespace TypeChecker
namespace Check
open Infer
variable [Evals] (node : Node)
def kidsOf : Eval Nodes := return ((<- get).quoted[node.id]?).toList ++ node.kids
def resAt? := tyOfSubnode? node (Evals.evalExpr node)

variable (ty : Ty)
def withVariance : Eval Ty := do
 let anc <- tree
 let some pars := anc.nearestOfKind? node (·.isTyParList) | pure ty
 let some owner := anc.parent? pars | pure ty
 match owner.kind, pars.kind with
 | .clsDef _, _ =>
  let some made <- Evals.tyOfCls owner | pure ty
  Evals.inferVariance made.clsTy
  let hit := ((<- univ).tyPars made.clsTy).find? (·.isSame ty {ignoreMarks := true})
  return (hit.bind (·.var.computedVariance)).elim ty ty.setComputedVariance
 | .tyAlias .., .tyParList pars =>
  let made <- Evals.tyOfTyAlias owner
  let isHere par := if let .tyPar name .. := par.kind then name == node else false
  let some idx := pars.findIdx? isHere | pure ty
  return (((<- inferAliasVariance made).getD [])[idx]?).elim ty ty.setComputedVariance
 | _, _ => pure ty

def tyAt? : Eval Ty? := do
 let some res <- resAt? node | pure none
 let ty := res.ty
 let ty <- if ty.isTyVar && ty.shared.declVariance == .auto then withVariance node ty else pure ty
 return (<- univ).unrollAlias ty

def touch := discard (tyAt? node)

def isLhsOut := do
 let some bound <- bound? node | pure false
 let anc <- tree
 let rec search : Nat -> Node -> Bool
  | 0, _ => false
  | fuel + 1, node => if let some flow := bound.nodeFlow[node.id]? then FlowNode.isDead flow
   else (anc.parent? node).any (search fuel)
 return search Node.maxHeight node

variable (rule : Rule)
def levelOf (node : Node) := return (<- rulesOf node).level rule
def isReported (node : Node) : Ask := return (<- levelOf rule node) != .none
def remember : Act := modify fun s => {s with walked := s.walked.push node}
def isWorthUsing := !ty.isNoneInst && !ty.isNever && !ty.isAnyLike

def untestable? : Eval String? := do
 let u <- univ
 let ty := u.unrollAlias (<- firm ty)
 let form := ty.special?
 if form.any (·.isNamed "TypeAliasType") then return say "tyAliasInstCheck"
 match ty.form with
 | .cls data =>
  let flags := u.flags ty
  return if ty.isNamed "TypedDict" then say "tdBadNote"
   else if ty.isNamed "NamedTuple" then say "ntBad"
   else if ty.isNoneInst then say "noneBad"
   else if flags.tdict then say "tdClsBad"
   else if data.hasOwnArgs && !data.orSub then say "genClsBad"
   else if flags.illegalInst then say "isinstanceClsBarred" [ty.clsName]
   else if flags.proto && !flags.runtimeCheckable && !data.orSub then say "protoNeedsRuntimeCheckable"
   else if flags.newTy then say "newTyClsBad"
   else if form.any (·.isObjOf "Annotated") then say "annotatedBad"
   else if form.any (·.isClsOf "Literal") then say "litBadNote"
   else none
 | .fn data => return if !ty.isInsta || data.isCallableWithTyArgs then say "genClsBad" else none
 | .tyVar _ => return say "tyVarBad"
 | _ => pure none

def filterParts (filter : Ty) :=
 filter.subtys.flatMap fun part =>
  if part.isTupObj then (part.tupArgs?.map (·.map (·.ty))).getD [part] else [part]

def checkProtoTest (node : Node) (proto ty : Ty) : Act := do
 if !(<- flagsOf proto).proto then return
 let mut notes := .empty
 for part in ty.subtys do
  if part.isObj then if <- isUnsafeOverlap proto part then notes := notes.say "protoUnsafeOverlapNote" [part.clsName]
 if !notes.isEmpty then blame "protoUnsafeOverlap" node [proto.clsName] notes

def checkTestNeeded (node : Node) (ty : Ty) (filters : Tys) (isInst : Bool) : Act := do
 if !(<- isReported .idleIsInst node) then return
 let rest <- narrowByInst {filters, holds := false, site := node} isInst ty
 let kept <- narrowByInst {filters, holds := true, site := node} isInst ty
 if rest.isNever || kept.isNever then
  let msg := match rest.isNever, isInst with
   | true, true => "idleInstEver"
   | true, false => "idleSubEver"
   | false, true => "idleInstNever"
   | false, false => "idleSubNever"
  flag .idleIsInst msg node [<- printTy ty, <- printTy (.combine (filters.map (·.toInst)))]

def checkInstTest (node callee : Node) (args : Nodes) : Act := do
 let isInst := callee.nameVal? == some "isinstance"
 if !isInst && callee.nameVal? != some "issubclass" then return
 let [{kind := .arg _ _ subj, ..}, second@{kind := .arg _ _ filter, ..}] := args | return
 let some ty <- tyAt? subj | return
 let u <- univ
 let ty <- expandPromotions node (ty.map fun part => u.unrollAlias part)
 let some filter <- tyAt? filter | return
 let mut notes := Adden.empty
 for mem in filter.subtys do
  for ent in filterParts mem do
   let problems <- ent.subtys.filterMapM untestable?
   notes := problems.foldl (·.addMsg) notes
   if !problems.isEmpty then break
 if !notes.isEmpty then
  report .argumentTy ((if isInst then say "isInstBadTy" else say "isSubclassBadTy") ++ notes.print) second
 if !isInst then
  let isData <- (filterParts filter).anyM fun part => do
   return part.isClsObj && (<- flagsOf part).proto && !(<- isMethOnlyProto part)
  if isData then blame "dataProtoInSubclassCheck" second
 if (<- tree).isInAssertTest node then return
 let some filters <- instFilters? filter | return
 for filter in filters do
  if filter.isClsObj then checkProtoTest subj filter.clsInst (if isInst then ty else ty.toInst)
 checkTestNeeded node ty filters isInst

variable (node : Node)
def checkCond : Act := do
 let some ty <- tyAt? node | return
 let step : Ty -> Ty -> Bool -> StateT Adden Eval Ty? := fun part _ _ => do
  if part.isAnyLike || part.isObjOf "bool" then return none
  let some ret := (<- plainMagicCall part "__bool__" [] node none).map (·.ty) | pure none
  if ret.isAnyLike || ret.isObjOf "bool" then return none
  modify (·.addMsg (say "condNeedsBool" [<- printTy part, <- printTy ret]))
  pure none
 let (_, notes) <- (mapExpanded ty step).run .empty
 if !notes.isEmpty then blame "condOperandBad" node [<- printTy ty] notes

def checkCondUse : Nat -> Node -> Act
 | 0, _ => return
 | fuel + 1, node => do
  match node.kind with
  | .binary lhs _ op rhs _ =>
   if op matches .and | .or then
    checkCondUse fuel lhs
    checkCondUse fuel rhs
  | .unary _ op expr _ => if op == .not then checkCondUse fuel expr
  | _ =>
   let parts <- (<- tyOf node).ty.subtys.mapM firm
   if parts.all (·.isRoutine) then flag .idleCompare "fnInCondExpr" node
   if parts.all (·.isObjIn ["Coroutine", "CoroutineType"]) then
    flag .idleCompare "coroInCondExpr" node

def checkTest : Act := do
 checkCond node
 checkCondUse Node.maxHeight node

def isSimpleVal :=
 match node.kind with
 | .unary .. | .binary .. | .number .. | .const .. | .name .. | .tup .. => true
 | .list items | .set items | .dict items _ => !items.any (·.isCompr)
 | _ => false

def checkUnusedExpr : Act := do
 if !isSimpleVal node then return
 let isShown <- if (<- fileOf node).isNotebook then do
   let anc <- tree
   let some stmt := anc.parent? node | pure false
   let isLast := stmt.kids.getLast? == node
   pure (isLast && (anc.parent? stmt).any fun top => top.isMod && top.kids.getLast? == some stmt)
  else pure false
 if !isShown then flag .unusedExpr "unusedExpr" node

variable (node lhs rhs : Node)
def checkContainment (op : Op) : Act := do
 let some ty <- tyAt? lhs | return
 let some box <- tyAt? rhs | return
 if ty.isNever || box.isNever then return
 let some elem := containedTy? box | return
 if (<- narrowByElem (<- firm elem) ty).isNever then
  let msg := if op == .isIn then "inEverFalse" else "inEverTrue"
  let flags := {expandAlias := true}
  flag .idleContains msg node [<- printTy ty flags, <- printTy elem flags]

def enumVals (ty : Ty) :=
 ty.mapM fun part => do
  let u <- univ
  if !part.isObj || !(<- isEnum part) ||
    !(u.mro part).any (fun base => base.isCls && base.isBuiltIn ["int", "str", "bytes"]) then return part
  let val? (ty : Ty) : Ty? := if let some (.enum mem) := ty.lit? then mem.itemTy else none
  if let some val := val? part then return val
  let vals := ((<- litsOf? part).getD []).filterMap val?
  return some (if vals.isEmpty then part else .combine vals)

def mayEqual (lhs rhs : Ty) (byIdentity : Bool) : Ask := do
 let inner (lhsPart : Ty) := fun rhsPart _ _ => do
  if !(<- get) then if <- isComparable lhsPart rhsPart byIdentity then set true
  pure rhsPart
 let outer : Ty -> Ty -> Bool -> StateT Bool Eval Ty? := fun lhsPart _ _ => do
  if !(<- get) then discard (mapExpanded rhs (inner lhsPart))
  pure lhsPart
 pure ((<- (mapExpanded lhs outer).run false).2)

def checkCompare (op : Op) : Act := do
 let rhs := if let .binary inner _ op _ false := rhs.kind then if op.chains then inner else rhs else rhs
 let some lhsTy <- tyAt? lhs | return
 let some rhsTy <- tyAt? rhs | return
 if lhsTy.isNever || rhsTy.isNever then return
 let lhsTy <- enumVals lhsTy
 let rhsTy <- enumVals rhsTy
 let isPossible <-
  if rhsTy.isLitOrUnion && lhsTy.isLitOrUnion then
   if ((<- staticFacts node).truth? node).isSome then pure true
   else lhsTy.subtys.anyM (canAssign rhsTy ·) <||> rhsTy.subtys.anyM (canAssign lhsTy ·)
  else mayEqual lhsTy rhsTy (op matches .is | .isNot)
 if !isPossible then
  let msg := if op matches .equals | .is then "cmpEverFalse" else "cmpEverTrue"
  let flags := {expandAlias := true}
  flag .idleCompare msg node [<- printTy lhsTy flags, <- printTy rhsTy flags]

def checkIdx (node lhs : Node) (items : Nodes) (trailComma : Bool) : Act := do
 touch node
 let some base <- tyAt? lhs | return
 for part in base.subtys do
  let some tup := (<- univ).specdTup? part | continue
  let some args := tup.tupArgs? | continue
  if !part.isObj || tup.isUnbTup then continue
  match items, trailComma with
  | [{kind := .arg .simple none val, ..}], false =>
   let some idx <- tyAt? val | continue
   if !idx.isObjOf "int" then continue
   let some (.int idx false) := idx.lit? | continue
   let length : Int := args.length
   if (idx < 0 || idx < length) && (idx >= 0 || idx + length >= 0) then continue
   if <- isSubsumed tup base false then continue
   blame "tupIndexOutOfRange" node [idx.repr, <- printTy part]
  | _, _ => continue

def checkStrings (strings : Nodes) (hasHint hasParens : Bool) : Act := do
 let ancestors := (<- tree).ancestors node
 let isOld := (<- fileOf node).ver.isLessThan (.three 12)
 let containers := if isOld then ancestors.filter (·.isFormatStr) else []
 let isBytes := strings.any (·.strFlags.bytes)
 for string in strings do
  let tokens := match string.kind with
   | .string token _ => [token]
   | .formatStr _ middle .. => middle
   | _ => []
  for token in tokens do
   let (flags, escaped, start) := match token.kind with
    | .string flags escaped prefixLen => (flags, escaped, token.span.start + prefixLen + flags.quoteLen)
    | .fStrMiddle flags escaped => (flags, escaped, token.span.start)
    | _ => ({}, #[], token.span.start)
   for error in (unescape escaped flags).errs do
    reportSpan node .invalidStrEscapeSeq
     (if isBytes then say "bytesBadEsc" else say "strBadEsc")
     {error with start := start + error.start}
   if !containers.isEmpty && escaped.contains 92 then
    reportSpan node .general (say "fStrEsc") {start, length := 1}
  let quotes node := let flags := node.strFlags; (flags.singleQuote, flags.doubleQuote, flags.triplicate)
  if containers.any (quotes · == quotes string) then blame "fStrInQuote" string
 if hasHint then touch node
 if strings.length > 1 && !hasParens then reportSpan node .autoStrConcatenation (say "autoStrConcat") node

def checkAliasCall (callee : Node) : Act := do
 let some ty <- tyAt? callee | return
 if ty.isClsObj && ty.cls.ref.isBuiltIn && !ty.cls.orSub then
  if let some name := ty.cls.aliasName then
   if ["List", "Set", "Dict", "Tuple"].contains name then blame "collAliasMake" callee [name, ty.clsName]

def checkDfltCall : Act := do
 if (<- isReported .callInDfltInitializer node) && (<- tree).isInDfltVal node && !(<- inStub node) then
  flag .callInDfltInitializer "dfltValHasCall" node

def checkUnusedRes : Act := do
 let some ty <- tyAt? node | return
 if isWorthUsing ty then flag .unusedCallRes "unusedCallResult" node [<- printTy ty]

def isStmt := do
 let some (.stmtList ..) <- parentKind? node | pure false
 pure true

def checkLostRes (node callee : Node) : Act := do
 let rules <- rulesOf node
 if rules.level .unusedCallRes == .none && rules.level .unusedCoro == .none then return
 if !(<- isStmt node) || callee.nameVal? == some "reveal_type" then return
 let some ty <- tyAt? node | return
 checkUnusedRes node
 if ty.isObjIn ["Coroutine", "CoroutineType"] then flag .unusedCoro "unusedCoro" node

def checkAssertion : Act := do
 checkCond node
 let some ty <- tyAt? node | return
 if ty.isTupObj && !ty.tupArgs.isEmpty && !ty.isUnbTup then
  reportSpan node .assertAlwaysTrue (say "assertEverTrue") node

def checkFull (node subj : Node) : Act := do
 if !(<- isReported .matchNotFull node) then return
 let some rest <- tyOfSubnode? node (Evals.evalMatch node) | return
 if !rest.ty.isNever then
  let notes := Adden.empty.say "matchIsOpenTy" [<- printTy rest.ty]
  flag .matchNotFull "matchIsOpen" subj [] (notes.say "matchIsOpenHint")

end Check
end TypeChecker
