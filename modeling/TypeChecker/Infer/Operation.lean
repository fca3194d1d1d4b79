import TypeChecker.Infer.Index

/-! Operators. -/

namespace TypeChecker

def Op.meths? : Op -> Option (String × String)
 | .equals => ("__eq__", "__eq__")
 | .notEquals => ("__ne__", "__ne__")
 | .lessThan => ("__lt__", "__gt__")
 | .lessThanOrEqual => ("__le__", "__ge__")
 | .greaterThan => ("__gt__", "__lt__")
 | .greaterThanOrEqual => ("__ge__", "__le__")
 | op =>
  let stem := match op with
   | .add => "add" | .subtract => "sub" | .multiply => "mul" | .floorDivide => "floordiv"
   | .divide => "truediv" | .mod => "mod" | .power => "pow" | .matrixMultiply => "matmul"
   | .bitwiseAnd => "and" | .bitwiseOr => "or" | .bitwiseXor => "xor" | .leftShift => "lshift"
   | .rightShift => "rshift" | _ => ""
  if stem.isEmpty then none else ("__" ++ stem ++ "__", "__r" ++ stem ++ "__")

def Op.ofAug : Op -> Op
 | .addEqual => .add | .subtractEqual => .subtract | .multiplyEqual => .multiply
 | .floorDivideEqual => .floorDivide | .divideEqual => .divide | .modEqual => .mod
 | .powerEqual => .power | .matrixMultiplyEqual => .matrixMultiply | .bitwiseAndEqual => .bitwiseAnd
 | .bitwiseOrEqual => .bitwiseOr | .bitwiseXorEqual => .bitwiseXor | .leftShiftEqual => .leftShift
 | .rightShiftEqual => .rightShift | op => op

namespace Infer
variable [Evals]
structure OpNotes where
 notes : Adden := .empty
 depr : Option MagicDepr := none

abbrev Operate := StateT OpNotes Eval

def mapPairs (lhs rhs : Ty) (change : Ty -> Ty -> Ty -> Ty -> Operate Ty?) :=
 mapExpanded lhs fun lhsPart lhsMem _ => some <$>
  mapExpanded rhs (fun rhsPart rhsMem _ => change lhsPart lhsMem rhsPart rhsMem) {filter := lhsPart.ownConds}

variable (op : Op)
def noteOp (lhs rhs : Ty) (want : Want?) : Operate Unit := do
 let lhs <- printTy lhs
 let rhs <- printTy rhs
 let want := want.filter (!·.ty.isAnyLike)
 let msg <- if let some want := want then
   do pure (say "tyNoBinaryOpBoth" [op.sym, lhs, rhs, <- printTy want.ty])
  else pure (say "tyNoBinaryOp" [op.sym, lhs, rhs])
 modify fun s => {s with notes := s.notes.addMsg msg}

variable (node : Node) (lhs rhs : Typed) (site : Node) (want : Want?)
def firstCall : List (Ty × String × Typed) -> Operate Typed?
 | [] => pure none
 | (obj, name, arg) :: rest => do
  let some res <- plainMagicCall obj name [arg] site want | firstCall rest
  if res.magicDepr.isSome then modify ({· with depr := res.magicDepr})
  pure res

def fwdCalls (name : String) (lhsPart lhsMem rhsPart rhsMem : Ty) (draft : Bool) :=
 let rhs ty : Typed := {ty, draft}
 [(lhsMem, name, rhs rhsMem)] ++ (if lhsMem.isIdentical lhsPart then [] else [(lhsPart, name, rhs rhsMem)]) ++
  (if rhsMem.isIdentical rhsPart then [] else [(lhsPart, name, rhs rhsPart)])

def containment (lhsTy : Ty) (site : Node) :=
 mapPairs rhs.ty lhsTy fun rhsPart rhsMem lhsPart _ => do
  if lhsPart.isAnyLike || rhsMem.isAnyLike then return lhsPart.preserveUnk rhsPart
  let bool <- builtinObj site "bool"
  let hit <- firstCall site none [(rhsPart, "__contains__", {ty := lhsPart, draft := lhs.draft})]
  if let some hit := hit then return hit.ty
  let item <- iterated {ty := rhsPart, draft := rhs.draft} false site false
  let fits <- if let some item := item then (canAssign item.ty lhsPart) else pure false
  if !fits then noteOp op lhsPart rhsPart none
  pure bool

def arithmetic (allowTupAdd : Bool) : Operate Ty := do
 let obj <- objTy
 let tup? <- tupCls?
 let asObj ty := if ty.isRoutine then obj else ty
 let (name, reflected) := op.meths?.getD ("", "")
 mapPairs lhs.ty rhs.ty fun lhsPart lhsMem rhsPart rhsMem => do
  if lhsMem.isAnyLike || rhsMem.isAnyLike then return lhsMem.preserveUnk rhsMem
  let areTuples := allowTupAdd && op == .add && lhsPart.isTupObj &&
   rhsPart.isTupObj && !(lhsPart.isUnbTup && rhsPart.isUnbTup)
  if let (true, some tup, some lhsArgs, some rhsArgs) := (areTuples, tup?, lhsPart.tupArgs?, rhsPart.tupArgs?) then
   return (tup.specTup (lhsArgs ++ rhsArgs)).clsInst
  let arg ty : Typed := {ty, draft := lhs.draft}
  let backward := [(rhsMem, reflected, arg lhsMem)] ++
   (if rhsMem.isIdentical rhsPart then [] else [(rhsPart, reflected, arg lhsMem)]) ++
   (if lhsMem.isIdentical lhsPart then [] else [(rhsPart, reflected, arg lhsPart)])
  let calls := fwdCalls name lhsPart lhsMem rhsPart rhsMem rhs.draft ++ backward
  if let some res <- firstCall site want (calls.map fun (ty, rest) => (asObj ty, rest)) then return res.ty
  else
   noteOp op lhsPart rhsPart want
   return some (.unkOf (lhs.draft || rhs.draft))

def binary (allowLitMath allowTupAdd : Bool) : Operate Ty := do
 if op.meths?.isSome then
  if lhs.ty.isNever || rhs.ty.isNever then return .never
  if let some ty := if allowLitMath then Ty.litBinary? op lhs.ty rhs.ty else none then return ty
  else return <- arithmetic op lhs rhs site want allowTupAdd
 let mut lhsTy <- firm lhs.ty
 if op matches .and | .or then
  if !(<- canBe (op == .and) lhsTy) then return lhs.ty
  if !(<- canBe (op != .and) lhsTy) then return rhs.ty
  lhsTy <- without (op == .and) lhsTy
  if rhs.ty.isNever then return lhsTy
 if lhs.ty.isNever || rhs.ty.isNever then return .never
 let bool <- builtinObj site "bool"
 match op with
 | .isIn | .notIn =>
  let ty <- containment op lhs rhs lhsTy site
  return if ty.isNever then ty else bool
 | _ =>
  mapPairs lhsTy rhs.ty fun _ lhsMem _ rhsMem =>
   return some (if op matches .and | .or then .combine [lhsMem, rhsMem] else bool)

def mclsHas (ty : Ty) (name : String) : Ask := do
 if !ty.isClsObj then return false
 let some mcls := (<- infoOf ty).metaTy | pure false
 if !mcls.isClsObj || mcls.isNamed "type" then return false
 return (<- clsMem? mcls name).any fun mem => !mem.clsTy.isAnyLike && !(mem.clsTy.isClsOf "type")

def unionOp (lhsNode rhsNode : Node) (opToken : Token) (flags : EvalFlags) (lhs rhs : Typed)
  (lhsTy rhsTy : Ty) : Eval Typed := do
 let file <- fileOf node
 if !(file.isStub || flags.fwdRefs) && file.ver.isLessThan (.three 10) && !lhsTy.isAnyLike then
  report .general (say "unionSyntaxBad") node opToken
 let lhsIsValid <- checkTyArg {lhs with node := lhsNode}
 if !(lhsIsValid && (<- checkTyArg {rhs with node := rhsNode})) then return .unk
 let flags := {flags with instaTy := true}
 let lhsTy <- reportMissingTyArgs lhsNode lhsTy flags
 let mut ty := Ty.combine [lhsTy, <- reportMissingTyArgs rhsNode rhsTy flags] true
 if let (some union, false) := (<- clsOf? (·.unionTyCls), flags.instArg) then ty := ty.setSpec union.clsInst
 if let (some lhsForm, some rhsForm) := (lhs.ty.tyForm?, rhs.ty.tyForm?) then
  ty := ty.setTyForm (some (.combine [lhsForm, rhsForm]))
 if !file.isStub then
  let isStr node := node.kind matches .strList ..
  let other := if isStr lhsNode then some (lhsNode, rhs.ty) else if isStr rhsNode then some (rhsNode, lhs.ty) else none
  if let some (text, other) := other then
   if other.isCls && (!other.cls.hasOwnArgs || other.isInst) then blame "unionFwdRefBad" text
 pure ty

def reportOp (lhs rhs : Ty) (node : Node) (info : String) := do
 report .opIssue (say "tyNoBinaryOp" [op.sym, <- printTy lhs, <- printTy rhs] ++ info) node

def tyOfBinaryIn : Nat -> Node -> EvalFlags -> Want? -> Eval Typed
 | 0, _, _, _ => pure .unk
 | fuel + 1, node, flags, want => do
  let .binary lhsNode token op rhsNode _ := node.kind | pure .unk
  let mut rhsNode := rhsNode
  if let (true, .binary next _ rhsOp _ false) := (op.chains, rhsNode.kind) then
   if rhsOp.chains then
    discard (tyOfBinaryIn fuel rhsNode flags want)
    rhsNode := next
  let isLogical := op matches .or | .and
  let expectsList := op == .multiply && lhsNode.kind matches .list _ && want.any fun want =>
   want.ty.isObjOf "list" && !want.ty.tyArgs.isEmpty
  let lhs <- tyOf lhsNode flags (if isLogical || expectsList then Want.make (want.map (·.ty)) else none)
  let u <- univ
  let isTdict ty := ty.isObj && (u.flags ty).tdict
  let rhsWant :=
   if isLogical && want.isSome then want.map (·.ty)
   else if (isLogical && lhs.ty.subtys.any fun part =>
         part.isObj && (isTdict part || !(u.tyPars part).isEmpty)) ||
     (op == .add && rhsNode.kind matches .list _) ||
     (op == .bitwiseOr && isTdict lhs.ty) then lhs.ty
   else none
  let rhs <- tyOf rhsNode flags (Want.make rhsWant)
  let draft := lhs.draft || rhs.draft
  if op == .bitwiseOr && !(<- mclsHas lhs.ty "__or__") then
   if !(<- mclsHas rhs.ty "__ror__") then
    let empty := (<- noneTy).toInsta
    let lhsTy := if lhs.ty.isNoneInst && !rhs.ty.isNoneInst then empty else lhs.ty
    let rhsTy := if rhs.ty.isNoneInst && !lhs.ty.isNoneInst then empty else rhs.ty
    if Ty.areUnionable [lhsTy, rhsTy] then
     let u <- univ
     let whole ty := if ty.isClsObj then u.specDflt ty else ty
     return <- unionOp node lhsNode rhsNode token flags lhs rhs (whole lhsTy) (whole rhsTy)
  if flags.tyExpr && op != .bitwiseOr then
   badForm "binaryOpBad" node
   return .unk
  let isEquality := op matches .equals | .notEquals
  let lhsTy := if isEquality then lhs.ty.removeNone else lhs.ty
  let rhsTy := if isEquality then rhs.ty.removeNone else rhs.ty
  let isNullable := op.meths?.isSome && !isEquality && lhsTy.isOpt
  let anc <- tree
  let allowMath := !anc.isInLoop node && (anc.enclLambda? node).isNone
  let (ty, hit) <- (binary op {ty := lhsTy, draft := lhs.draft}
   {ty := rhsTy, draft := rhs.draft} node want allowMath (!lhsTy.isUnion)).run {}
  let failed := !hit.notes.isEmpty
  if failed && !draft then
   if isNullable && hit.notes.msgs.size == 1 then flag .optOperand "noneOp" lhsNode [op.sym]
   else
    let isUnion := (<- firm lhsTy).isUnion || (<- firm rhsTy).isUnion
    reportOp op lhsTy rhsTy node (if isUnion then hit.notes.print else "")
  pure {ty, draft, tyErrs := failed, magicDepr := hit.depr}

def tyOfBinary (flags : EvalFlags) (want : Want?) := tyOfBinaryIn Node.maxHeight node flags want

def tyOfAug (lhsNode : Node) (op : Op) (rhsNode dest : Node) (want : Want?) : Eval Typed := do
 let lhs <- tyOf lhsNode
 let rhs <- tyOf rhsNode {} (Want.make (if op == .bitwiseOrEqual then lhs.ty else none))
 let draft := lhs.draft || rhs.draft
 let mut res := {ty := .never, draft}
 if !lhs.ty.isNever && !rhs.ty.isNever then
  let plain := op.ofAug
  let name := "__i" ++ ((plain.meths?.elim "" (·.1)).drop 2).toString
  let isLocal <- if let .name val _ := lhsNode.kind then do
    let scope <- scopeOf? lhsNode
    pure ((<- lookUpName lhsNode val false).any (scope == some ·.scope))
   else pure false
  let allowMath := isLocal && !(<- tree).isInLoop node && lhs.ty.memCount * rhs.ty.memCount < Ty.maxLitResults
  let (ty, hit) <- (mapPairs lhs.ty rhs.ty fun lhsPart lhsMem rhsPart rhsMem => do
   if lhsMem.isAnyLike || rhsMem.isAnyLike then return lhsMem.preserveUnk rhsMem
   if let some res <- firstCall node want (fwdCalls name lhsPart lhsMem rhsPart rhsMem rhs.draft) then
    pure res.ty
   else
    let hit <- binary plain {ty := lhsMem, draft := lhs.draft}
     {ty := rhsMem, draft := rhs.draft} node want allowMath (!lhs.ty.isUnion)
    return hit).run {}
  if (!hit.notes.isEmpty || ty.isNever) && !draft then reportOp op lhs.ty rhs.ty node hit.notes.print
  res := {ty, draft, magicDepr := hit.depr}
 Evals.assignToExpr dest res rhsNode false false
 pure res

def tyOfUnary (op : Op) (expr : Node) (flags : EvalFlags) (want : Want?) : Eval Typed := do
 if flags.tyExpr then
  badForm "unaryOpBad" node
  return .unk
 let operand <- tyOf expr
 let draft := operand.draft
 let mut ty <- firm ((<- univ).unrollAlias operand.ty)
 if ty.isNever then return {ty := .never, draft}
 if op != .not && ty.isOpt then
  flag .optOperand "noneOp" expr [op.sym]
  ty := ty.removeNone
 if !draft then if let some hit := ty.litUnary? op then return {ty := hit}
 let name := match op with
  | .add => "__pos__" | .subtract => "__neg__" | .bitwiseInvert => "__invert__" | _ => "__bool__"
 let (hit, calls) <- if ty.isAnyLike then pure (ty, ({} : MemCalls))
  else .run (s := ({} : MemCalls)) (mapExpanded ty fun part _ _ => do
   let res <- plainMagicCall part name [] node want
   modify fun s => {s with failed := s.failed || res.isNone, depr := (res.bind (·.magicDepr)).or s.depr}
   return res.map (·.ty))
 if op == .not then return {ty := <- builtinObj node "bool", draft, magicDepr := calls.depr}
 if !calls.failed then return {ty := hit, draft, magicDepr := calls.depr}
 if !draft then
  let text <- printTy ty
  let msg <- if let some want := want.filter (!·.ty.isAnyLike) then
    do pure (say "tyNoUnaryOpBoth" [op.sym, text, <- printTy want.ty])
   else pure (say "tyNoUnaryOp" [op.sym, text])
  report .opIssue msg node
 pure {ty := .unkOf draft, draft, magicDepr := calls.depr}

def tyOfTernary (ifExpr test elseExpr : Node) (flags : EvalFlags) (want : Want?) : Eval Typed := do
 if flags.tyExpr then
  badForm "ternaryBad" node
  return .unk
 discard (tyOf test)
 let val := (<- staticFacts node).val? test
 let branch expr excluded := do
  if val == excluded then return []
  if !(<- isReachable expr) then return []
  pure [<- tyOf expr flags want]
 let results := (<- branch ifExpr false) ++ (<- branch elseExpr true)
 pure {ty := .combine (results.map (·.ty)), draft := results.any (·.draft), tyErrs := results.any (·.tyErrs)}

end Infer
end TypeChecker
