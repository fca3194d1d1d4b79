import TypeChecker.Docstring.Markdown
import TypeChecker.Infer.Alias
import TypeChecker.Infer.Call.Overload
import TypeChecker.Infer.SpecialForm
import TypeChecker.Infer.TypedDict.Methods

/-! Calls of values of every kind. -/

namespace TypeChecker.Infer
variable [Evals]
structure CallInput where
 site : Node
 args : List Arg
 draft := false
 constrs : Constrs? := none
 opts : CallOpts := {}
 depth := 0

abbrev CallOutput := CallRes × Constrs?
def failedCall (retTy : Ty? := none) : CallRes := {retTy, argErrs := true}

variable (call : CallInput)
def callFn (ty : Ty) : Eval CallOutput := do
 if ty.isInsta then
  flag .callIssue "callNoInst" call.site [<- printTy ty]
  return (failedCall, call.constrs)
 if ty.fn.isBuiltIn ["namedtuple"] then
  flag .untypedNamedTup "ntNoTys" call.site
  let made <- createNamedTup call.site call.args false
  let (_, constrs) <- validateArgs call.site call.args ty call.constrs call.opts
  return ({retTy := made}, constrs)
 if ty.fn.isBuiltIn ["NewType"] then return ({retTy := <- createNewTy call.site call.args}, call.constrs)
 let (res, constrs) <- validateArgs call.site call.args {ty, draft := call.draft} call.constrs call.opts
 let retTy := if res.argErrs then res.retTy else res.retTy.getD (.unkOf res.draft)
 if !res.argErrs && ty.fn.fullName == "functools.total_ordering" then addOrdering call.site call.args
 return ({res with retTy := if ty.fn.isBuiltIn ["__import__"] then some .any else retTy
                   anyOrUnkArg := none, argResults := none}, constrs)

variable (ty unexpanded : Ty) (site : Node)
def callCast (tgt val : Arg) : Eval Ty := do
 if let (true, some node) := (tgt.cat != .simple, tgt.val) then badForm "unpInHint" node
 let ty := (<- tyOfArgWant tgt {tyExpr := true}).ty
 let ty <- boundAt site ty
 let given := (<- tyOfArg val).ty
 let given := given.special?.getD given
 if ty.isInsta && !ty.isUnk && ty.toInst.isSame given {ignorePseudo := true} then
  flag .idleCast "idleCast" site [<- printTy given]
 pure ty.toInst

def callOvld (ty : Ty) : Eval CallOutput := do
 if let ([tgt, val], some first) := (call.args, ty.ovls.head?) then
  if first.fn.isBuiltIn ["typing.cast", "typing_extensions.cast"] then
   return ({retTy := (<- callCast call.site tgt val)}, call.constrs)
 let (res, constrs) <- validateOvls call.site call.args {ty, draft := call.draft} call.constrs call.opts
 let missing := if res.argErrs then .unk else .unkOf res.draft
 return ({retTy := (res.retTy.getD missing), draft := res.draft, argErrs := res.argErrs, ovlsUsed := res.ovlsUsed
          initSelfTy := res.initSelfTy}, constrs)

def callMcls (ty : Ty) : Eval CallRes := do
 if ty.tyArgs?.isSome && ty.cls.hasOwnArgs then
  flag .callIssue "objectNoCall" call.site [<- printTy ty]
  return failedCall (some .unk)
 let _ <- construct call.site call.args ty call.opts
 if let (true, [arg]) := (ty.clsName == "type", call.args) then
  let given <- tyOfArg arg
  let retTy <- given.ty.mapM fun part => do
   if part.isNever then return part
   if part.isCls then
    if part.isObj && (<- flagsOf part).newTy && !part.cls.orSub then
     if let some fn <- clsOf? (·.fnCls) then return fn
    return (<- stripLit part).toInsta
   return if part.isInst && (part.isFn || part.isTyVar) then part.toInsta else ty.clsInst.spec (some [.unk])
  return {retTy, draft := given.draft}
 if call.args.length >= 2 then return {retTy := ((<- clsOfMcls call.site call.args ty).getD .any)}
 pure {retTy := some .any}

def callSpecCls? (ty : Ty) : Eval (Option CallRes) := do
 if !ty.cls.ref.isBuiltIn then return none
 let u <- univ
 if u.isInstaMcls ty then return <- callMcls call ty
 let made ty := return some {retTy := <- ty}
 let node := call.site
 let name := ty.cls.shownName
 match name with
 | "TypeVar" => return <- made (createTyVar node ty call.args)
 | "TypeVarTuple" => return <- made (createPackVar node false ty call.args)
 | "ParamSpec" => return <- made (createPackVar node true ty call.args)
 | "TypeAliasType" => if let some hit <- createTyAlias node call.args then return some {retTy := hit}
 | "NamedTuple" =>
  let res <- createNamedTup node call.args true
  if let (some init, _) <- initMeth node ty.clsInst false then
   if init.ty.isOvld then discard <| validateOvls node call.args init.ty none {call.opts with want := none}
  return some {retTy := res}
 | "NewType" => return <- made (createNewTy node call.args)
 | "Sentinel" => if <- hasTyForms node then return <- made (createSentinel node call.args)
 | _ => pure ()
 if (u.flags ty).specForm then
  flag .callIssue "tyNoInst" node [name]
  return failedCall (some .unk)
 if name == "TypedDict" then return some {retTy := <- createTdict node ty call.args}
 if name == "auto" && call.args.isEmpty then return some {retTy := <- autoEnumVal node}
 pure none

def checkInsta : Act := do
 let flags <- flagsOf ty
 if ty.cls.orSub then return
 if flags.hasAbs && !unexpanded.isTyVar then
  let syms <- absSyms ty
  if !syms.isEmpty then flag .absUsage "makeAbs" call.site [ty.clsName] (noteAbs syms)
 if flags.proto then flag .absUsage "makeProto" call.site [ty.clsName]

def deprMsg (node : Node) :=
 if let .call _ (first :: _) _ := node.kind then if let .arg .simple _ val := first.kind then
   if val.kind matches .strList .. then (Docstring.plainText val.stringsVal).toString else ""
  else ""
 else ""

def clsOfInst (ty made : Ty) : Eval Ty := do
 let name <- if let [first, _, _] := call.args then do
   let given := (<- tyOfArg first).ty
   pure (match given.isObjOf "str", given.lit? with
    | true, some (.text text) => text.toString
    | _, _ => "__class_" ++ made.clsName)
  else pure ("__class_" ++ made.clsName)
 let file <- fileOf call.site
 let u <- univ
 let hit <- makeCls {id := 0, name, fullName := "", modName := "", srcId := call.site.start}
  {uri := .file file.path, bases := [<- builtinTy call.site "object"], declMcls := made.clsObj, metaTy := ty
   decl := (u.info made).decl}
 discard (computeMro hit)
 pure hit

def callCls : Eval CallRes := do
 if ty.hasLit then
  flag .callIssue "litNoCall" call.site
  return failedCall (some .unk)
 if let some res <- callSpecCls? call ty then return res
 let u <- univ
 if (u.info ty).metaTy.any fun mcls => mcls.isCls && isEnumMcls u mcls then
  if !(<- isEnumWithMems ty) then
   return {retTy := ((<- enumOfCall? call.site ty call.args).getD unexpanded.toInst)}
 checkInsta call ty unexpanded
 let res <- construct call.site call.args ty call.opts
 let retTy := if unexpanded.isTyVar then some unexpanded.toInst else res.retTy
 let retTy <- retTy.mapM fun made => do
  if !made.isObj then return made
  let made := if call.site.kind matches .call .. then
    if made.isNamed "deprecated" then made.withCls ({· with depr := (deprMsg call.site)}) else made
   else made
  if (u.mro made).any (·.isClsOf "type") then clsOfInst call ty made
  else pure made
 pure {retTy, ovlsUsed := res.ovlsUsed, argErrs := res.argErrs, draft := res.draft}

def callInst : Eval CallOutput := do
 let (meth, notes) <- Match.explained (accessBound call.site ty "__call__" {}
  {skipInstMems := true, skipOverride := true} none call.depth)
 if let some meth := meth.filter (!·.tyErrs) then
  let (res, constrs) <- Evals.checkCall call.site call.args (.ofTy meth.ty) call.constrs call.opts call.depth
  let retTy := if unexpanded.isTyVar && unexpanded.isInsta && ty.isNamed "type" then unexpanded.toInst
   else res.retTy.getD .unk
  pure ({retTy, argErrs := res.argErrs, ovlsUsed := res.ovlsUsed}, constrs)
 else
  flag .callIssue "objectNoCall" call.site [<- printTy ty] notes
  pure (failedCall (some .unk), call.constrs)

def callPart : Eval CallOutput := do
 let refuse rule msg := do
  report rule msg call.site
  if !call.draft then touchArgs call.args
  pure (failedCall, call.constrs)
 match ty.form with
 | .never _ | .unk .. | .any _ =>
  let (res, constrs) <- callFn call (.ofFn {pars := Ty.dfltPars})
  pure ({res with retTy := ty}, constrs)
 | .fn _ => callFn call ty
 | .ovld .. => callOvld call ty
 | .cls _ =>
  if ty.isNoneInst then refuse .optCall (say "noneNoCall")
  else if ty.isInsta then return (<- callCls call ty unexpanded, call.constrs)
  else callInst call ty unexpanded
 | .tyVar _ =>
  Evals.checkCall call.site call.args
   {ty := (<- univ).unrollAlias ty, draft := call.draft} call.constrs
   call.opts call.depth
 | .mod _ => refuse .callIssue (say "modNoCall")
 | _ =>
  if !call.draft then touchArgs call.args
  pure (failedCall, call.constrs)

def checkCall (args : List Arg) (callee : Typed)
  (constrs : Constrs?) (opts : CallOpts) (depth : Nat) : Eval CallOutput := do
 if depth > maxTyDepth then return (failedCall (some .unk), constrs)
 if let some form := callee.ty.special? then
  report .callIssue (say "objectNoCall" [<- printTy form {expandAlias := true}])
   (if let .call lhs .. := site.kind then lhs else site)
  return (failedCall (some .unk), constrs)
 let node <- speculNode site
 let callOne ty unexpanded isLast : StateT CallOutput Eval Ty? := do
  let (known, constrs) <- get
  let call := {site, args, draft := callee.draft, constrs, opts, depth := depth + 1}
  let (res, constrs) <- trying (if isLast then none else node) (callPart call ty unexpanded) none true
  set ({known with argErrs := known.argErrs || res.argErrs, draft := known.draft || res.draft
                   ovlsUsed := known.ovlsUsed ++ res.ovlsUsed, initSelfTy := res.initSelfTy}, constrs)
  pure res.retTy
 let (retTy, res, constrs) <- (mapExpanded callee.ty callOne {sort := true}).run ({}, constrs)
 let retTy := if res.argErrs && retTy.isNever && !retTy.isNoReturn then .unk else retTy
 pure ({res with retTy := retTy}, constrs)

end TypeChecker.Infer
