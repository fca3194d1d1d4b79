import TypeChecker.Infer.TypeArgs
import TypeChecker.Infer.Assign.Type
import TypeChecker.Infer.Enum

/-! Special forms: the types that `Callable`, `Union`, `Literal`, `Annotated` and their like make of their
arguments, and the specialization of ordinary generic classes. -/

namespace TypeChecker

structure SpecCls where
 tgt : String? := none
 base := "object"
 mod : String? := "builtins"
 (isForm isIllegalInst : Bool := false)
 variance : Option Variance := none

namespace SpecCls

def form : SpecCls := {isForm := true}
def named (tgt : String) (mod : String? := some "builtins") : SpecCls := {tgt := tgt, mod}

def ofAnnot? : String -> Option SpecCls
 | "Tuple" => named "tuple"
 | "Type" => named "type"
 | "TypedDict" => named "_TypedDict" none
 | "Annotated" => some {isForm := true, isIllegalInst := true}
 | "TypeGuard" => some {base := "bool", isForm := true, variance := some .covar}
 | "TypeIs" => some {base := "bool", isForm := true, variance := some .invar}
 | "TypeForm" => some {isForm := true, isIllegalInst := true, variance := some .covar}
 | name =>
  if (words "Generic Protocol Callable ClassVar Final Literal Union Optional TypeAlias Concatenate Unpack Required
NotRequired Self NoReturn Never LiteralString ReadOnly").contains name then
   some form
  else none

def ofAssign? : String -> Option SpecCls
 | "List" => named "list"
 | "Dict" => named "dict"
 | "Set" => named "set"
 | "FrozenSet" => named "frozenset"
 | "DefaultDict" => named "defaultdict" "collections"
 | "Deque" => named "deque" "collections"
 | name =>
  if ["overload", "TypeVar", "_promote", "no_type_check", "NoReturn", "Never"].contains name then some {}
  else if ["Counter", "ChainMap", "OrderedDict"].contains name then named name "collections"
  else none

end SpecCls
namespace Infer
variable [Evals]
def createSpecCls (node : Node) (name : String) (special : SpecCls) : Eval Ty := do
 let file <- fileOf node
 let baseName := special.tgt.getD special.base
 let base <- match special.mod with
  | some "builtins" => some <$> builtinTy node baseName
  | some mod => modNameTy? node baseName [mod]
  | none => (<- lookUpName node baseName false).mapM (effTy ·.sym)
 let mut base := (base.filter (·.isClsObj)).getD .unk
 if base.isCls && special.mod.isNone && base.isBuiltIn ["_TypedDict", "TypedDictFallback"] then
  let info <- infoOf base
  let copy <- makeCls base.cls.ref {info with
   flags := {info.flags with hasAbs := false, tyCheckOnly := false}}
  base := base.withCls ({· with ref := copy.cls.ref})
 if base.isCls && special.tgt.isSome then return base.withCls ({· with aliasName := name})
 let scopeId := .ofNode node
 let tyPars <- if let some declVariance := special.variance then do
   pure [(Ty.ofVar {id := <- freshVarId, name := "T", declVariance}).setVarScope scopeId name (some .clsDef)]
  else pure []
 let some bound <- bound? node | pure .unk
 let decl := (bound.nodeDecl[node.id]?).or ((<- parent? node).bind (bound.nodeDecl[·.id]?))
 let u <- univ
 let ty <- makeCls
  {id := 0, name, fullName := (<- tree).qualifiedName node file.modName name, modName := file.modName, srcId := 0}
  {flags := {builtIn := true, specBuiltIn := true, specForm := special.isForm
             illegalInst := special.isIllegalInst, typingExt := file.isTypingExtensionsStub}
   uri := .file file.path, tyPars, decl, bases := [base]
   metaTy := if base.isCls then (u.info base).metaTy else some .unk}
 discard (computeMro ty)
 pure ty

def annotatedSpec? (node : Node) : Eval Ty? := do
 let some (.annot val _) <- parentKind? node | pure none
 let some name := val.nameVal? | pure none
 let some special := SpecCls.ofAnnot? name | pure none
 if let some ty <- cachedTy? node then return ty
 let mut ty <- createSpecCls node name special
 if name == "LiteralString" then
  let str := (<- clsOf? (·.strCls)).getD .any
  changeCls ty fun info => {info with bases := info.bases ++ [str]}
  discard (computeMro ty)
 else if name == "Never" then ty := Ty.never.setSpec ty
 else if name == "NoReturn" then ty := Ty.noReturn.setSpec ty
 if ["LiteralString", "Never", "NoReturn"].contains name && (<- hasTyForms node) then ty := ty.setTyForm ty.toInst
 writeTy node ty
 pure ty

def assignedSpec? (node lhs rhs : Node) : Eval Ty? := do
 let some name := lhs.nameVal? | pure none
 if name == "Any" then return some .anyForm
 let some special := SpecCls.ofAssign? name | pure none
 discard (tyOf rhs)
 createSpecCls node name special

end Infer

/-! ## Special Form -/

def ClsForm.shownName {α : Type} (data : ClsForm α) := data.aliasName.getD data.ref.name

namespace Infer
variable [Evals]
def Typed.place (res : Typed) (default : Node) := res.node.getD default

def asForm (node : Node) (ty : Ty) (isValid : Bool := true) : Eval Ty := do
 return if isValid && (<- hasTyForms node) then ty.setTyForm ty.toInst else ty

variable (ty : Ty)
def asUnionForm := do
 return match <- clsOf? (·.unionTyCls) with
  | some union => ty.setSpec union.clsInst
  | none => ty

def reportSecondUnp (args : List Typed) (isOpen : Typed -> Bool) (node : Node) : Ask := do
 if let some second := (args.filter isOpen)[1]? then
  badForm "manyTyArgsOver" (Typed.place second node)
  pure true
 else pure false

def createCallable (args : Option (List Typed)) (node : Node) : Eval Ty := do
 let gradual (data : FnData) (useUnk : Bool) :=
  {data.addPars (Ty.dfltPars useUnk) with flags := {data.flags with gradual := true}}
 let base := {declRet := some .unk, scopeId := (TyScopeId.ofNode node)}
 let finish data isValid := asForm node ((Ty.fnObj data).setSpec ty.clsInst) isValid
 let first :: rest := args.getD [] | finish (gradual base true) args.isNone
 let mut isValid := true
 let mut data := {base with isCallableWithTyArgs := true}
 if let some list := first.tyList then
  let isOpen ent := ent.ty.isTupVar
   || (ent.ty.isUnpCls && ent.ty.tupArgs.any fun arg => arg.isUnb || arg.ty.isTupVar)
  for (ent, idx) in list.zipIdx do
   let par := Ty.numberedPar idx ent.ty.toInst
   if ent.ty.isTupVar then
    discard (checkUnp ent.ty (Typed.place ent node))
    data := data.addPar {par with cat := .argsList}
   else if <- checkTyArg ent {allowUnpTuples := true} then
    data := data.addPar {par with cat := if ent.ty.isUnpCls then .argsList else .simple}
   else data := data.addPar {par with ty := .unk}
  isValid := !(<- reportSecondUnp list isOpen node)
  if !list.isEmpty then data := data.addPar Ty.posSep
 else if first.ty.isSigVar then data := data.addPars (Ty.sigVariadics first.ty.toInst)
 else if let some sig <- sigArg? first true then
   let ent := sig.fn
   let pars := ent.pars.map fun par => match par.ty.isSigVar with
    | true => {par with ty := par.ty.toInst}
    | false => par
   data := {data with pars, flags.gradual := ent.flags.gradual}
  else
   badForm "callArg1" (Typed.place first node)
   isValid := false
 match rest with
 | [] =>
  flag .missingTyArg "callArg2" node
  isValid := false
 | res :: more =>
  data := {data with declRet := some (if (<- checkTyArg res) then res.ty.toInst else .unk)}
  if let extra :: _ := more then
   badForm "callExtraArgs" (Typed.place extra node)
   isValid := false
 finish data isValid

variable (args : Option (List Typed)) (node : Node) (flags : EvalFlags)
def createOpt : Eval Ty := do
 if let some [arg] := args then
  let isOk <- checkTyArg arg
  let none <- (·.getD .unk) <$> clsOf? (·.noneTyCls)
  let res <- asUnionForm (.combine [if isOk then arg.ty else .unk, none])
  return match isOk, arg.ty.tyForm? with
   | true, some form => res.setTyForm (Ty.combine [form, none.toInst])
   | _, _ => res
 else
  if args.isNone && !flags.tyExpr then return ty
  badForm "optExtraArgs" node
  pure .unk

variable (form : Ty)
def litCls (name : String) (val : Lit Ty) := do
 let ty <- builtinTy node name
 return if ty.isClsObj then (ty.setLit val).setSpec form else .unk

def plainLit? (val : Node) : Eval Ty? := do
 match val.kind with
 | .strList .. =>
  let isBytes := (val.strings?.getD []).head?.any (·.strFlags.bytes)
  some <$> litCls node form (if isBytes then "bytes" else "str") (.text val.stringsVal)
 | .number .. => val.wholeNum?.mapM fun val => litCls node form "int" (.ofInt val)
 | .const .trueKw => some <$> litCls node form "bool" (.bool true)
 | .const .falseKw => some <$> litCls node form "bool" (.bool false)
 | .const .noneKw => return (<- clsOf? (·.noneTyCls)).getD .unk
 | .unary _ op operand _ =>
  if op matches .subtract | .add then
   operand.wholeNum?.mapM fun val => litCls node form "int" (.ofInt (if op == .subtract then -val else val))
  else pure none
 | _ => pure none

def createLit : Eval Ty := do
 let .idx lhs items _ := node.kind | pure .unk
 if items.isEmpty then
  badForm "litEmptyArgs" lhs
  return .unk
 let mut isValid := true
 let mut tys := #[]
 for item in items do
  let .arg cat name val := item.kind | continue
  let mut hit := none
  if cat != .simple || name.isSome then
   if flags.tyExpr then
    badForm (if cat != .simple then "unpArgInTyArg" else "kwArgInTyArg") val
    isValid := false
    hit := some .unk
  else
   hit <- plainLit? node ty val
   if flags.tyExpr then
    for part in val.strings?.getD [] do
     if part.strFlags.namedUnicodeEscape then
      badForm "litUniEsc" part
      isValid := false
  if hit.isNone then
   let valTy := (<- tyOf val {fwdRefs := flags.fwdRefs, tyExpr := flags.tyExpr, keepSpec := true}).ty
   if valTy.isObj && (<- flagsOf valTy).enum && valTy.hasLit then hit := valTy.clsObj
   else if valTy.subtys.all fun part => (part.isClsObj && part.hasLit) || part.isNoneCls then hit := valTy
  if let some lit := hit then tys := tys.push lit
  else
   if !flags.tyExpr then return ty.clsInst
   badForm "litBadTy" item
   isValid := false
   tys := tys.push .unk
 let res := .combine tys.toList true
 asForm node (<- if res.isUnion then asUnionForm res else pure res) isValid

def createSpec (limit : Nat?) (node : Node)
  (allowParSpec : Bool := false) (isForm : Bool := true) : Eval Ty := do
 let isTup := (<- flagsOf ty).tup
 let list := match args, isTup with
  | some [arg], true => if arg.isEmptyTup then [] else [arg]
  | _, _ => args.getD []
 let place arg := Typed.place arg node
 for (arg, idx) in list.zipIdx do
  if arg.ty.isEllipsis then
   if !isTup then
    if !allowParSpec then badForm "dotsPlace" (place arg)
   else match list, idx with
    | [first, _], 1 =>
     if first.ty.isTupVar && !first.ty.var.isInUnion then badForm "tupVarPlace" (place first)
     else if first.ty.isUnpCls then badForm "dotsAfterUnp" (place arg)
    | _, _ => badForm "dotsArg2" (place arg)
  else if arg.ty.isSigVar && allowParSpec then pure ()
  else if limit.isNone && arg.ty.isTupVar then discard (checkUnp arg.ty (place arg))
  else discard (checkTyArg arg {allowUnpTuples := limit.isNone && arg.ty.isUnpCls})
 if limit.isNone then
  discard (reportSecondUnp list (fun arg => if arg.ty.isTupVar then !arg.ty.var.isInUnion
   else arg.ty.isUnpCls && arg.ty.isUnbTup) node)
 let mut tys := list.map (·.ty.toInst)
 if let some limit := limit then
  if let some extra := list[limit]? then
   badForm "tyArgsOver" (place extra) [ty.cls.shownName, limit.repr, tys.length.repr]
  tys := tys.take limit ++ .replicate (limit - tys.length) .unk
 let res :=
  if isTup then
   let ents := if let some _ := args then list.zipIdx.foldl (fun ents (arg, idx) =>
     if idx == 1 && arg.ty.isEllipsis then if let [ent] := ents then [{ent with isUnb := true}] else ents
     else ents ++ match arg.ty.isUnpCls, arg.ty.tupArgs? with
      | true, some inner => inner
      | _, _ => [{ty := arg.ty.toInst}]) []
    else [{ty := .unk, isUnb := true}]
   ty.specTup ents args.isSome
  else ty.spec tys args.isSome
 return if isForm then res.setSpec ty else res

def createUnion : Eval Ty := do
 let some args := args
  | if flags.tyExpr then
     badForm "unionTyArgNum" node
     return .never
    pure ty
 let experimental <- hasTyForms node
 let mut isValid := true
 let mut tys := #[]
 for arg in args do
  let mut hit := if <- checkTyArg arg {allowTyVarTup := experimental} then arg.ty else .unk
  if hit.isUnpTupVar then
   if experimental then hit := hit.unpackVar true
   else
    blame "unionUnpTupVar" node
    hit := .unk
    isValid := false
  tys := tys.push hit
 if let [only] := tys.toList then
  if !(only.isTupVar && only.var.isInUnion) && !only.isNoneInst then
   if flags.tyExpr then flag .invalidTyArgs "unionTyArgNum" node
   isValid := false
 let union <- asUnionForm (.combine tys.toList true)
 match isValid, tys.toList.mapM (·.tyForm?) with
 | true, some forms => return if experimental then union.setTyForm (Ty.combine forms) else union
 | _, _ => return if union.tyForm?.isSome then union.setTyForm none else union

def createSelf : Eval Ty := do
 if let some (arg :: _) := args then flag .invalidTyArgs "tyArgsWantNone" (Typed.place arg node) [ty.clsName]
 let anc <- tree
 let clsNode := (anc.enclCls? node).filter fun clsNode => clsNode.clsParts?.any (anc.isWithin node ·.suite)
 let some owner <- clsTyOf? clsNode
  | if flags.tyExpr || flags.instaTy then blame "selfTyPlace" node
    pure .unk
 if (<- univ).isInstaMcls owner then
  blame "selfTyMeta" node
  return .unk
 if let some fn := anc.enclFn? node then
  let decos <- Evals.decoFacts fn true
  if (anc.enclFn? fn).isNone then
   if decos.flags.staticMeth then
    blame "selfTyPlace" node
    return .unk
   if let some hint := fn.fnParts?.bind (Node.hintOfPar? · 0) then
    if !anc.isWithin node hint then
     if !(<- Evals.tyOfAnnot hint {bindsTyVars := true}).isSelfVar then blame "selfTyWithTypedSelfOrCls" node
 let res := owner.selfVar true
 return match clsNode, anc.enclClsOrFnSuite? node with
  | some clsNode, some suite =>
   if anc.isWithin suite clsNode && clsNode.clsParts?.any (·.suite != suite) then res.asBound
   else res
  | _, _ => res

def createQualifier : Eval Typed := do
 let choose readOnly required notRequired :=
  if ty.clsName == "ReadOnly" then readOnly
  else if ty.clsName == "Required" then required else notRequired
 let some [arg] := args
  | if flags.tyExpr then badForm (choose "readOnlyArgNum" "reqArgNum" "optArgNum") node
    pure ty
 let anc <- tree
 let owner <- clsTyOf? (anc.enclCls? node true)
 let u <- univ
 let isAnnot := (anc.nearestOfKind? node (·.kind matches .annot ..)).isSome
 let inTdict := isAnnot && owner.any fun owner => (u.flags owner).tdict
 let isReadOnly := ty.clsName == "ReadOnly"
 let isLegal := if isReadOnly then (inTdict || flags.allowReadOnly) && !arg.isReadOnly
  else (inTdict || flags.allowReq) && !(arg.isReq || arg.isNotReq)
 if !isLegal then
  if flags.tyExpr then badForm (choose "readOnlyNotInTd" "reqNotInTd" "optNotInTd") node
  return ty
 return {ty := arg.ty, isReadOnly := isReadOnly || arg.isReadOnly
         isReq := if isReadOnly then arg.isReq else ty.clsName == "Required"
         isNotReq := if isReadOnly then arg.isNotReq else ty.clsName == "NotRequired"}

def createUnpack : Eval Ty := do
 let some [arg] := args
  | if flags.tyExpr then badForm "unpArgNum" node
    pure ty
 let u <- univ
 let (unp, msg) :=
  if flags.allowUnpTup then (unpackTupLike? u arg.ty, (say "unpWantTupVar"))
  else if flags.allowUnpTdict then
   (if arg.ty.isClsObj && (u.flags arg.ty).tdict then
    some (arg.ty.withCls ({· with isUnp := true})) else none, (say "unpWantTd"))
  else (none, (say "unpBad"))
 if let some unp := unp then return unp
 if !flags.tyExpr then return ty
 report .general msg node
 pure .unk

def createForm? (node : Node) : Eval Typed? := do
 let give action := return some {ty := <- action}
 let isType := flags.tyExpr
 let noForm := flags.onlyTyForms || isType
 let guarded := do
  let tys <- (args.getD []).mapM fun arg => return if <- checkTyArg arg then arg.ty.toInst else .unk
  asForm node (ty.spec tys)
 match ty.cls.shownName with
 | "Callable" => give (createCallable ty args node)
 | "Never" | "NoReturn" => give do
  let name := ty.cls.shownName
  if let some (arg :: _) := args then badForm "tyArgsWantNone" (Typed.place arg node) [name]
  asForm node ((if name == "Never" then Ty.never else .noReturn).setSpec ty)
 | "Optional" => give (createOpt ty args node flags)
 | "Type" => give do
  let res <- createSpec ty args (some 1) node false false
  asForm node (if res.isClsObj then res.explodeGeneric else res)
 | "ClassVar" => give do
  if flags.noClsVar then
   badForm "clsVarBad" node
   return .any
  match args with
  | none => return ty
  | some [arg] =>
   if (<- univ).needsSpec arg.ty {ignorePseudo := true, ignoreSelf := true} then
    blame "clsVarWithTyVar" (Typed.place arg node)
   return arg.ty
  | some [] => badForm "clsVarArg1Gone" node
  | some (_ :: arg :: _) => badForm "clsVarOverArgs" (Typed.place arg node)
  pure .unk
 | "Protocol" => give do
  if noForm then badForm "protoUnusable" node
  for arg in args.getD [] do
   if arg.tyList.isSome || !arg.ty.isTyVar then badForm "protoTyArgMustBeTyPar" (Typed.place arg node)
  createSpec ty args none node true
 | "TypedDict" =>
  if noForm && !(args.isSome && (<- hasTyForms node)) then badForm "tdBad" node
  pure none
 | "Literal" =>
  if noForm then badForm "litBad" node
  pure none
 | "Tuple" => give (createSpec ty args none node false false)
 | "Union" => give (createUnion ty args node flags)
 | "Generic" => give do
  let some list := args
   | if isType || flags.noNakedGeneric then badForm "genTyArgGone" node
     pure ty
  if list.isEmpty then badForm "genTyArgGone" node
  let mut seen := []
  for arg in list do
   if !arg.ty.isTyVar then badForm "genTyArgTyVar" (Typed.place arg node)
   else
    if seen.any (·.isSame arg.ty) then badForm "genTyArgUnique" (Typed.place arg node)
    seen := arg.ty :: seen
  createSpec ty args none node true
 | "Final" => give do
  if flags.noFinal then
   if isType then badForm "finalPlace" node
   return ty
  match isType, args with
  | true, some (arg :: more) =>
   if !more.isEmpty then badForm "finalOverArgs" node
   return arg.ty.setSpec ty
  | _, _ => pure ty
 | "Annotated" =>
  if !isType && !flags.keepSpec then
   let form := (args.getD []).head?.bind (·.ty.tyForm?)
   return if form.isSome then ty.clsInst.setTyForm form else ty.clsInst
  let arg :: more := args.getD [] | pure Ty.any
  if more.isEmpty then badForm "annotatedTyArgGone" node
  if arg.tyList.isSome then badForm "tyArgListBad" (Typed.place arg node)
  return some {ty := arg.ty.setSpec ty.clsInst, isReadOnly := arg.isReadOnly
               isReq := arg.isReq, isNotReq := arg.isNotReq}
 | "Concatenate" => give do
  if !flags.allowConcat then
   if isType then badForm "concatPlace" node
   return ty
  let list := args.getD []
  if list.isEmpty then badForm "concatTyArgsGone" node
  for (arg, idx) in list.zipIdx do
   let place := Typed.place arg node
   if idx + 1 == list.length then
    if !arg.ty.isSigVar && !arg.ty.isEllipsis then badForm "concatSigGone" place
   else if arg.ty.isSigVar then badForm "sigPlace" place
   else if arg.ty.isUnpTupVar then badForm "tupVarPlace" place
   else if arg.ty.isUnpCls then badForm "unpArgInTyArg" place
  createSpec ty args none node true
 | "TypeGuard" | "TypeIs" => give do
  match args with
  | some [_] => guarded
  | none =>
   if isType then badForm "tyGuardArgNum" node
   pure ty
  | _ =>
   badForm "tyGuardArgNum" node
   pure .unk
 | "TypeForm" => give do
  match args.getD [] with
  | [] => return ty.spec (some [.unk])
  | [_] => guarded
  | list@(_ :: second :: _) =>
   badForm "tyArgsOver" (Typed.place second node) [ty.cls.shownName, "1", list.length.repr]
   pure .unk
 | "Unpack" => give (createUnpack ty args node flags)
 | "Required" | "NotRequired" | "ReadOnly" => some <$> createQualifier ty args node flags
 | "Self" => give (createSelf ty args node flags)
 | "LiteralString" => give (createSpec ty args (some 0) node)
 | _ => pure none

def fitTyArg (par arg : Ty) : Match Ty? := do
 if arg.isAnyLike || arg.isSame par then return arg
 let u <- univ
 let eff <- if arg.isTyVar then (firm arg) else pure (u.unrollAlias arg)
 if eff.isCls && (u.flags eff).unfinished then return arg
 let name := par.var.readableName
 if let some bound := par.bound? then
  if !u.isHole eff then
   if !(<- .below (assign bound eff)) then
    if !par.shared.isSynth then .note "tyBound" [printTy eff, printTy bound, name]
    return none
 if par.isSigVar then
  if arg.isSigVar || (arg.isFn && arg.fn.flags.sigVal)
    || (arg.isObjOf "Concatenate") then return arg
  .note "tySig" [printTy arg, name]
  return none
 if arg.isSigVar then
  .note "sigPlace"
  return none
 let constrs := par.shared.constrs
 if constrs.isEmpty || u.isHole arg then return arg
 if arg.isTyVar && arg.hasConstrs then
  if <- arg.shared.constrs.allM fun own => constrs.anyM (canAssign · own) then return arg
 else
  let best <- constrs.foldlM (fun (best : Ty?) constr => do
   if !(<- canAssign constr eff) || (eff.isNever && !constr.isNever) then return best
   if let some hit := best then return if <- canAssign hit constr then constr else best
   else return constr) none
  if best.isSome then return best
 .note "tyConstrTyVar" [printTy arg, name]
 pure none

def checkTyArgs (pars : Tys) (args : List Typed) (node : Node) : Eval (Nat × Bool) := do
 let u <- univ
 let name := ty.cls.shownName
 let least := (pars.findIdx? (·.shared.isDfltGiven)).getD pars.length
 let mut count := args.length
 let mut isValid := true
 if let some extra := args[pars.length]? then
  let flags := u.flags ty
  if !flags.unfinished && !flags.tup then
   if pars.isEmpty then
    isValid := false
    flag .invalidTyArgs "tyArgsWantNone" (Typed.place extra node) [name]
   else if !(pars.length == 1 && pars.any (·.isSigVar)) then
    isValid := false
    report .invalidTyArgs
     (say "tyArgsOver" [name, pars.length.repr, args.length.repr])
     (Typed.place extra node)
   count := pars.length
 else if args.length < least then
  isValid := false
  let place <- if let some first := args.head?.bind (·.node) then pure ((<- parent? first).getD node) else pure node
  flag .invalidTyArgs "tyArgsFew" place [name, least.repr, args.length.repr]
 let many := pars.findIdx? (·.isTupVar)
 for (arg, idx) in args.zipIdx do
  if arg.ty.tyForm?.isNone then isValid := false
  if many == idx && arg.ty.isObj && u.isTupCls arg.ty then pure ()
  else if many == idx && arg.ty.isTupVar then
   if !(<- checkUnp arg.ty (Typed.place arg node)) then isValid := false
  else if !(<- checkTyArg arg
    {allowParSpec := true, allowList := pars[idx]?.any (·.isSigVar)}) then
   isValid := false
 pure (count, isValid)

def specCls (node : Node) : Eval Typed := do
 let u <- univ
 let mut isValid := true
 if u.isSpec ty then
  if let some res <- createForm? ty args flags node then return res
  if ["TypedDict", "Literal"].contains ty.cls.shownName then isValid := false
 if (<- fileOf node).ver.isAtLeast (.three 9) || flags.fwdRefs || (<- postponesAnnots node) then
  if let (some (first :: _), true) := (args, ty.isNamed "type") then
   if first.ty.isRoutine then
    badForm "tyHintWithCall" (Typed.place first node)
    return .unk
  if ty.isNamed "type" && args.isSome then
   if let some tyCls <- clsOf? (·.tyCls) then
    let res <- createSpec tyCls args (some 1) node false false
    return <- asForm node (if res.isClsObj then res.explodeGeneric else res)
  if u.isTupCls ty then return <- asForm node (<- createSpec ty args none node false false)
 let allPars := u.tyPars ty
 let pars := if ty.isPseudo then [] else allPars
 if pars.isEmpty && (args.getD []).isEmpty then return ty
 let mut count := 0
 let mut given := args
 if let some list := args then
  let (used, isOk) <- checkTyArgs ty pars list node
  count := used
  isValid := isValid && isOk
  given <- gatherSig allPars list node
  if given.isNone then isValid := false
 let opts <- unsolvedIn ty.scopeIds
 let mut constrs := {}
 let mut tys := #[]
 for (par, idx) in allPars.zipIdx do
  if let some arg := (given.getD [])[idx]? then
   let sig <- if par.isSigVar then sigArg? arg false else pure none
   let hit := sig.getD arg.ty.toInst
   tys := tys.push hit
   if !(sig.isSome && arg.tyList.isNone && arg.ty.isClsObj) then constrs := constrs.setTy par hit
  else
   let hit <- solve par constrs opts
   tys := tys.push hit
   constrs := constrs.setTy par hit
 let mut fitted := #[]
 for (arg, idx) in tys.toList.zipIdx do
  match decide (idx < count), pars[idx]? with
  | true, some par =>
   let (res, notes) <- Match.explained do
    let some hit <- fitTyArg par arg | pure none
    if flags.sameVariance && !(<- univ).isVarianceCompat hit par.shared.declVariance then
     .note "varyBadForCls" [printTy hit, ty.clsName]
     return none
    pure hit
   if res.isNone && !(arg.isObj && (u.flags arg).unfinished) then
    isValid := false
    report .invalidTyArgs
     (say "tyVarUnfit" [<- printTy arg, par.var.readableName] ++ notes.print)
     (((given.getD [])[idx]?.bind (·.node)).getD node)
   fitted := fitted.push (res.getD arg)
  | _, _ => fitted := fitted.push arg
 let final := match given, allPars.isEmpty && (u.flags ty).unfinished with
  | some list, true => list.map (·.ty.toInst)
  | _, _ => fitted.toList
 let res := ty.spec final given.isSome
 if <- hasTyForms node then return res.setTyForm (if isValid then res.toInst else none)
 pure res

end Infer
end TypeChecker
