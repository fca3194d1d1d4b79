import TypeChecker.Infer.Declaration
import TypeChecker.Infer.Collection
import TypeChecker.Infer.Operation

/-! What statements bind, and evaluation of an expression by way of what it is part of. -/

namespace TypeChecker.Infer
variable [Evals] (node : Node)
def evalFor (parts : ForParts Node) : Act := do
 if <- isTyCached node then return
 let res <- tyOf parts.iterable
 let ty <- iteratedTy res parts.asyncToken.isSome parts.iterable
 let hit := {ty, draft := res.draft}
 assignToExpr parts.tgt hit parts.tgt false false
 writeTy node hit

def evalExcept (parts : ExceptParts Node) : Act := do
 let some expr := parts.tyExpr | return
 if <- isTyCached node then return
 let res <- tyOf expr
 let caught ty := do
  let ty <- firm ty
  if ty.isAnyLike then return ty
  if ty.isClsObj then
   if ty.isNamed "BaseException" then set true
   return ty.clsInst
  if ty.isObj then
   let ent <- iteratedTy {ty, draft := res.draft} false expr false
   return ent.map fun mem => some (if mem.isAnyLike then mem else .unk)
  pure .unk
 let (ty, isBase) <- .run (s := false) (res.ty.mapM fun mem => do
  if let some args := ((<- univ).specdTup? mem).bind (·.tupArgs?) then
   return some (.combine (<- args.mapM (caught ·.ty)))
  else some <$> caught mem)
 let ty <- if parts.isGroup then builtinObj node (if isBase then "BaseExceptionGroup" else "ExceptionGroup") [ty]
  else pure ty
 if let some name := parts.name then assignToExpr name ty name false false
 writeTy node ty

def evalWithItem (expr : Node) (tgt : Node?) : Act := do
 if <- isTyCached node then return
 let res <- tyOf expr
 let isAsync := if let some (.withStmt parts) := <- parentKind? node then parts.asyncToken.isSome else false
 let mut ty := res.ty
 if ty.isOpt then
  report .optContextManager (if isAsync then say "noneNoWithAsync" else say "noneNoWith") expr
  ty := ty.removeNone
 let call obj name (args : List Typed) := do
  let (hit, notes) <- (magicCall obj name args expr).explained
  let some hit := hit | pure (none, notes)
  if !isAsync then return (some hit, notes)
  let res <- awaited {ty := hit.ty} expr
  pure (some {res with draft := res.draft || hit.draft}, notes)
 let enter := if isAsync then "__aenter__" else "__enter__"
 let mut draft := res.draft
 let mut entered := []
 for mem in ty.subtys do
  let obj <- firm mem
  if obj.isAnyLike then
   entered := entered ++ [obj]
   continue
  let mut notes := Adden.empty
  if obj.isCls then
   let (hit, more) <- call obj enter []
   notes := notes.addChild more
   if let some hit := hit then
    draft := draft || isAsync && hit.draft
    entered := entered ++ [hit.ty]
    continue
   if !isAsync && (<- (magicCall obj "__aenter__" [] expr).plain).isSome then notes := notes.say "asyncHelp"
  let shown <- printTy obj
  report .general ((if isAsync then say "tyNoWithAsync" [shown, enter]
   else say "tyNoWith" [shown, enter]) ++ notes.print) expr
  entered := entered ++ [.unk]
 let exit := if isAsync then "__aexit__" else "__exit__"
 let mut notes := .empty
 for mem in ty.subtys do
  let obj <- firm mem
  if obj.isAnyLike then continue
  if obj.isCls then
   let (hit, more) <- call obj exit [Ty.any, Ty.any, Ty.any]
   notes := notes.append more
   if let some hit := hit then
    draft := draft || hit.draft
    continue
  blame "tyNoWith" expr [<- printTy obj, exit] notes
 let given := {ty := if entered.isEmpty then ty else .combine entered, draft}
 if let some tgt := tgt then assignToExpr tgt given tgt false false
 writeTy node given

/-! Imports. -/

variable (name : String) (anc : Anc)
def importDecl? := do
 let some hit <- lookUpName node name true | pure none
 let aliases <- (<- symAt hit.sym).decls.toList.filterM fun id => return (<- declAt id).asAlias?.isSome
 let own <- aliases.filterM fun id => do isInside node (<- declAt id).node
 return (own.getLast?.or aliases.head?).map (hit.sym, ·)

def importedTy? : Eval Ty? := do
 let some (sym, id) <- importDecl? node name | pure none
 let some hit <- resolveAlias id true (<- inStub node) | pure none
 if hit.decl.isNone then return some .unk
 if let .importFromAs nameNode _ := node.kind then
  if hit.path.isPrivate then flag .privUsage "privUsedOutMod" nameNode [nameNode.nameVal]
  if let some mod := hit.path.importer then
   let notes := hit.path.src.elim .empty fun src => .ofMsg (say "privImpSrc" [src])
   flag .privImportUsage "privImpMod" nameNode [nameNode.nameVal, mod] notes
 inferDecl sym id

def evalImportAs (mod : Node) (asName : Node?) : Act := do
 if <- isTyCached node then return
 let first := match mod.kind with | .modName _ parts _ => parts.head? | _ => none
 let some name := asName.or first | return
 let ty := (<- importedTy? node name.nameVal).getD .unk
 assignToName name ty false none false none
 writeTy node ty

def evalImportFromAs (name : Node) (asName : Node?) : Act := do
 if <- isTyCached node then return
 let bound := asName.getD name
 let touch := do if let some hit <- lookUpName node bound.nameVal true then markRead hit.sym node
 if asName.any (·.nameVal == name.nameVal) then touch
 if ((<- tree).enclCls? node true).isSome then touch
 let mut ty <- importedTy? node bound.nameVal
 if ty.isNone then
  if let some {kind := .importFrom parts, ..} <- parent? node then
   if let some res := (<- get).imports[parts.modName.id]? then
    if res.isHit && !res.isNative then
     let uri := res.resolved.back?.getD .none
     let mut isMissing := uri.isEmpty
     if let some path := uri.path? then
      if (<- Evals.loadMod path).isSome then
       isMissing := true
       let file <- fileOf node
       if file.isStub || file.ver.isAtLeast (.three 7) then
        if let some getter <- modSym? path "__getattr__" then
         let getter <- effTy getter
         if getter.isFn then
          ty := (<- effRet getter)
          isMissing := false
     if isMissing then flag .attrAccessIssue "impSymUnk" name [name.nameVal]
 let hit := ty.getD .unk
 assignToName bound hit false none false none
 writeTy node hit

def evalImportFrom (parts : ImportFromParts Node) : Act := do
 if <- isTyCached node then return
 if parts.isWildcard then
  writeTy node Ty.any
  let some id <- flowAt? node | return
  let some bound <- bound? node | return
  let some flow := bound.flow[id - Anc.firstId bound.block]? | return
  let .wildImport _ names := flow.kind | return
  for name in names do
   let some ty <- importedTy? node name | continue
   let some hit <- lookUpName node name false | continue
   let some declared <- declTy? hit.sym | continue
   let (fits, notes) <- (assign declared ty).explained
   if !fits then
    let (src, dest) <- printPair ty declared
    flag .assignmentTy "tyBadWild" node [name, src, dest] notes (parts.wildcardToken.elim node (·.span))
 else
  let .modName _ (first :: _) _ := parts.modName.kind | return
  let some ty <- importedTy? node first.nameVal | return
  assignToName first ty false none false none
  writeTy node ty

/-! Evaluation in context. -/

def evalAnnotated (val hint : Node) : Act := do
 if let some parent <- parent? node then
  if let .assignment lhs rhs .. := parent.kind then return <- evalAssign parent lhs rhs
 writeTy val (<- Evals.tyOfAnnot hint (<- hintOpts val))

def evalHint (hint : Node) : Act := do
 let some parent <- parent? hint | return
 match parent.kind with
 | .assignment lhs rhs cmt _ =>
  if cmt == hint then discard <| Evals.tyOfAnnot hint (<- hintOpts lhs) else evalAssign parent lhs rhs
 | .annot val hint => evalAnnotated parent val hint
 | .fnDef parts => discard <| Evals.tyOfAnnot hint {bindsTyVars := parts.retHint == hint}
 | .par parts =>
  discard <| Evals.tyOfAnnot hint {allowUnpTup := parts.cat == .argsList, allowUnpTdict := parts.cat == .kwargsDict}
 | _ => discard <| Evals.tyOfAnnot hint {}

def declaredRet? : Eval Ty? := do
 let some res <- Evals.tyOfFn node | pure none
 let data := res.fnTy.fn
 let some declared := data.declRet | pure none
 if !data.flags.gen then return declared
 return if let some args := Univ.genArgs? declared then some (if args.length >= 3 then args[2]?.getD .unk else .unk)
  else none

inductive StartPoint where
 | here (node : Node) (flags : EvalFlags)
 | clsDef (node : Node)
 | tyPar (node : Node)

def startPoint (node : Node) : Nat -> Node -> EvalFlags -> StartPoint
 | 0, cur, flags => .here cur flags
 | fuel + 1, cur, flags => Id.run do
  if let some arg := anc.nearestOfKind? cur (·.kind matches .arg ..) then
   if arg != cur then
    if let some parent := anc.parent? arg then
     if parent.kind matches .call .. | .idx .. then return startPoint node fuel parent flags
     if parent.isCls then return .clsDef parent
  let some parent := anc.parent? cur | return .here cur flags
  if let .walrus name .. := parent.kind then if name == cur then return startPoint node fuel parent flags
  if let some strings := anc.nearestOfKind? parent (·.kind matches .strList ..) then
   return startPoint node fuel strings flags
  let mut flags := flags
  let isSuper := match cur.kind with | .call lhs .. => lhs.nameVal? == some "super" | _ => false
  match parent.kind with
  | .call lhs .. =>
   if lhs == cur then return if isSuper || cur.isLambda then startPoint node fuel parent flags else .here cur .base
  | .memAccess lhs _ =>
   if lhs == cur then return if isSuper then startPoint node fuel parent flags else .here cur .base
  | .idx lhs .. => if lhs == cur then flags := .base
  | _ => pure ()
  if parent.isExpr then return startPoint node fuel parent flags
  match parent.kind with
  | .dictKeyEnt .. | .dictExpandEnt .. | .comprFor .. | .comprIf .. =>
   if let some outer := anc.parent? parent then return startPoint node fuel outer flags else return .here cur flags
  | .par _ => match anc.parent? parent with
   | some outer => return if outer.isLambda then startPoint node fuel outer flags else .here cur flags
   | none => return .here cur flags
  | .tyPar _ _ bound default =>
   return if bound == node || default == node then .tyPar parent else .here cur flags
  | _ => return .here cur flags

def evalExpr : Act := do
 let anc <- tree
 if node.isName then
  match anc.parent? node with
  | some parent => match parent.kind with
   | .fnDef parts => if parts.name == node then return <- discard (Evals.tyOfFn parent)
   | .clsDef parts => if parts.name == node then return <- discard (Evals.tyOfCls parent)
   | .importFromAs name asName => return <- evalImportFromAs parent name asName
   | .importAs mod asName => return <- evalImportAs parent mod asName
   | .tyAlias _ name .. => if name == node then return <- discard (Evals.tyOfTyAlias parent)
   | .globalStmt _ | .nonlocalStmt _ => return <- discard (tyOf node {fwdRefs := true})
   | .modName .. => return
   | _ => pure ()
  | none => pure ()
 if let some hint := anc.parentAnnot? node then return <- evalHint hint
 if let some case := anc.nearestOfKind? node (·.kind matches .caseClause ..) then
  if let .caseClause pat .. := case.kind then if <- isInside node pat then return <- Evals.evalCase case
 match startPoint anc node Node.maxHeight node {} with
 | .clsDef node => discard (Evals.tyOfCls node)
 | .tyPar node => discard (Evals.tyOfTyPar node)
 | .here start flags =>
  let some parent := anc.parent? start | discard (tyOf start flags)
  match parent.kind with
  | .delStmt _ => return <- delete start
  | .tyPar name .. =>
   if let some outer := (anc.parent? parent).bind anc.parent? then
    if start == name && outer.kind matches .tyAlias .. then return <- discard (Evals.tyOfTyAlias outer)
  | .tyAlias .. => return <- discard (Evals.tyOfTyAlias parent)
  | .deco _ =>
   if let some owner := anc.parent? parent then
    if owner.isCls then discard (Evals.tyOfCls owner) else discard (Evals.tyOfFn owner)
   return
  | .par parts => if parts.dfltVal != start then return <- Evals.evalPar parent
  | .arg _ name _ =>
   if name == start then return
   if let some owner := anc.parent? parent then if owner.isCls then return <- discard (Evals.tyOfCls owner)
  | .returnStmt (some val) =>
   let declared <- if let some fn := anc.enclFn? node then declaredRet? fn else pure none
   let u <- univ
   let live <- tyVarScopes node
   return <- discard (tyOf val {} (Want.make (declared.map (u.bindVarsOf live))))
  | .annot val hint => return <- evalAnnotated parent val hint
  | .assignment lhs rhs .. => return <- evalAssign parent lhs rhs
  | _ => pure ()
  if let .annot val hint := start.kind then return <- evalAnnotated start val hint
  discard (tyOf start flags)

def evalPar : Act := do
 let some par := node.parParts? | return
 let some name := par.name | return
 let some parent <- parent? node | return
 let some parts := parent.fnParts? | evalExpr parent
 let some idx := parts.pars.findIdx? (· == node) | return
 let live <- tyVarScopes node
 let write ty := do writeTy name (<- manyTy node par.cat ((<- univ).bindVarsOf live ty))
 if let some hint := Node.hintOfPar? parts idx then
  return <- write (<- adjustParTy node par (<- tyOfParHint hint par.cat))
 let owner <- clsTyOf? ((<- tree).enclCls? parent true)
 if let some owner := owner then
  if owner.isPseudo && parts.name.nameVal == "__init__" then
   if let some var := ((<- univ).tyPars owner).find? (·.shared.name == ("__type_of_" ++ name.nameVal)) then
    return <- writeTy name var.asBound
 write ((<- inferredParTy? parts (<- decoFacts parent true).flags idx owner).getD .unk)

def evalStmt : Act := do
 prefetch node
 let anc <- tree
 for cur in anc.ancestors node do
  match cur.kind with
  | .assignment lhs rhs .. =>
   let isChained := match anc.parentKind? cur with
    | some (.assignment _ rhs ..) | some (.walrus _ _ rhs _) | some (.augmented _ _ rhs _) => rhs == cur
    | _ => false
   if !isChained then return <- evalAssign cur lhs rhs
  | .tyAlias .. => return <- discard (Evals.tyOfTyAlias cur)
  | .walrus .. | .lambda .. => return <- evalExpr cur
  | .augmented lhs op rhs dest =>
   if <- isTyCached cur then return
   return <- writeTy cur (<- tyOfAug cur lhs op rhs dest none)
  | .clsDef _ => return <- discard (Evals.tyOfCls cur)
  | .par _ => return <- evalPar cur
  | .fnDef _ => return <- discard (Evals.tyOfFn cur)
  | .forStmt parts => return <- evalFor cur parts
  | .exceptClause parts => return <- evalExcept cur parts
  | .withItem expr tgt => return <- evalWithItem cur expr tgt
  | .comprFor .. =>
   if let some (.compr _ clauses ..) := anc.parentKind? cur then
    for clause in clauses do
     let _ <- evalClause clause
     if clause == cur then return
   return
  | .importAs mod asName => return <- evalImportAs cur mod asName
  | .importFromAs name asName => return <- evalImportFromAs cur name asName
  | .importFrom parts => return <- evalImportFrom cur parts
  | .caseClause .. => return <- Evals.evalCase cur
  | _ => pure ()

end TypeChecker.Infer
