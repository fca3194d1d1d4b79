import TypeChecker.Infer.DataClass
import TypeChecker.Infer.Index

/-! The types of functions, before and after their decorators are applied, of lambdas, and of the expressions that
yield values; the decorators of classes. -/

namespace TypeChecker.Infer
variable [Evals] (node : Node)
def decoExpr := match node.kind with | .deco expr => expr | _ => node

def tyOfDecoExpr := do
 let expr := decoExpr node
 tyOf expr {fwdRefs := (<- inStub node), noSpec := !(expr.kind matches .call ..)}

def decoFacts (isInCls : Bool) : Eval DecoFacts := do
 let some parts := node.fnParts? | pure {}
 let name := parts.name.nameVal
 let mut hit := { flags := {
  ctorMeth := isInCls && name == "__new__"
  clsMeth := isInCls && ["__init_subclass__", "__class_getitem__"].contains name}}
 for deco in parts.decos do
  let ty := (<- tyOfDecoExpr deco).ty
  let flags := hit.flags
  if ty.isFn then
   let isNamed name := ty.fn.isBuiltIn [name]
   let flags := if isNamed "abstractmethod" then {flags with absMeth := flags.absMeth || isInCls}
    else if isNamed "final" then {flags with final := true}
    else if isNamed "override" then {flags with overridden := true}
    else if isNamed "type_check_only" then {flags with tyCheckOnly := true}
    else if isNamed "no_type_check" then {flags with noTyCheck := true}
    else if isNamed "overload" then {flags with ovld := true}
    else flags
   hit := {hit with flags}
  else if ty.isClsObj then
   if isInCls && ty.isNamed "staticmethod" then hit := {hit with flags := {flags with staticMeth := true}}
   else if isInCls && ty.isNamed "classmethod" then hit := {hit with flags := {flags with clsMeth := true}}
  else if ty.isNamed "deprecated" then hit := {hit with deprecated := ty.cls.depr}
 pure hit

variable (input : Ty)
def callDeco : Eval Ty := do
 let callee <- tyOfDecoExpr node
 if callee.ty.isClsOf "classmethod" && (<- univ).isProp input then return input
 let (call, _) <- Evals.checkCall (decoExpr node) [{res := input}] callee none {skipUnkCheck := true} 0
 let ret := call.retTy.getD .unk
 writeTy node {ty := ret, ovlsUsed := call.ovlsUsed, draft := call.draft}
 if ret.isFn && ret.fn.declRet.isNone then
  if !ret.fn.pars.zipIdx.any fun (par, idx) =>
    par.name.isNone || par.isTyDecl || (par.cat == .simple && (idx != 0 || !par.isTyInferred)) then
   return input
 let ty := callee.ty
 if (<- univ).isPartlyUnk ret && ty.isFn && !ty.fn.pars.any (·.isTyDecl) && ty.fn.declRet.isNone then return input
 pure ret

def tyIn (deco part : Node) := return (<- tyOf part {EvalFlags.base with fwdRefs := (<- inStub deco)}).ty

def morphOf? (deco : Node) := do
 let .call lhs args _ := (decoExpr deco).kind | pure none
 let callee <- tyIn deco lhs
 if callee.isFn && (callee.fn.name == "__dataclass_transform__" || callee.fn.isBuiltIn ["dataclass_transform"]) then
  some <$> morphBehav args
 else pure none

def applyFnDeco (deco fn : Node) : Eval (Ty × Option DataClsBehav) := do
 let ty := (<- tyOfDecoExpr deco).ty
 if input.isFn && ty.isFn && ty.fn.isBuiltIn ["overload"] then
  return (input.withFn ({· with flags.ovld := true}), none)
 if let some behav <- morphOf? deco then
  return (if input.isFn then input.withFn ({· with decoBehav := behav}) else input, behav)
 let ret <- callDeco deco input
 if ty.isFn then
  if ty.fn.isBuiltIn ["abstractmethod", "type_check_only"] then return (input, none)
  if let .memAccess lhs mem := (decoExpr deco).kind then
   let base <- tyIn deco lhs
   let accessor := mem.nameVal
   if (<- univ).isProp base && (accessor == "setter" || accessor == "deleter") then
    if !input.isFn then return (input, none)
    checkPropMeth input deco
    return (<- if accessor == "setter" then withSetter base input fn else withDeleter base input fn, none)
 else if ty.isClsObj then
  if ty.isBuiltIn ["classmethod", "staticmethod"] then
   if !input.isFn then return (input, none)
   let isClsMeth := ty.clsName == "classmethod"
   return (input.withFn fun data =>
    if (if isClsMeth then data.flags.clsMeth else data.flags.staticMeth) then data
    else {data with flags := {data.flags with
     ctorMeth := false, clsMeth := isClsMeth, staticMeth := !isClsMeth}}, none)
  if ty.isBuiltIn ["decorator"] then return (input, none)
  if (<- flagsOf ty).prop then
   if input.isFn then
    checkPropMeth input deco
    return (<- createProp deco ty input, none)
   if input.isObj then
    if let some meth <- (magicMeth? input "__call__").plain then
     if meth.isFn then return (<- createProp deco ty meth, none)
    return (.unk, none)
 if input.isFn && ret.isFn && input.fn.flags.ovld then return (ret.withFn ({· with flags.ovld := true}), none)
 pure (ret, none)

def applyClsDeco (input clsTy : Ty) (deco : Node) : Eval Ty := do
 let ty := (<- tyOfDecoExpr deco).ty
 if let some behav <- morphOf? deco then changeCls clsTy ({· with dataClsMorph := behav})
 if ty.isOvld then
  if let some behav := decoBehav? ty then
   applyBehav deco clsTy [] behav
   return input
 else if ty.isFn then
  for (name, change) in [("final", fun (flags : ClsFlags) => {flags with final := true}),
    ("type_check_only", ({· with tyCheckOnly := true})), ("runtime_checkable", ({· with runtimeCheckable := true}))] do
   if ty.fn.isBuiltIn [name] then
    changeFlags clsTy change
    return input
  let (callee, args) <- if let .call lhs args _ := (decoExpr deco).kind then pure (<- tyIn deco lhs, args)
   else pure (ty, [])
  if let some behav := decoBehav? callee then
   applyBehav deco clsTy (args.map .ofNode) behav
   return input
 else if ty.isObjOf "deprecated" then
  changeCls clsTy ({· with depr := ty.cls.depr})
  return input
 callDeco deco input

def addOvls (ty : Ty) : Eval Ty := do
 let some parts := node.fnParts? | pure ty
 let some own := (<- bound? node).bind (·.nodeDecl[node.id]?) | pure ty
 let some hit <- lookUpName node parts.name.nameVal false | pure ty
 let decls := (<- symAt hit.sym).decls.toList
 let some idx := decls.findIdx? (· == own) | pure ty
 let before <- (decls.take idx).mapM declAt
 for decl in before do if decl.asFn?.isSome then let _ <- Evals.tyOfFn decl.node
 let some last := before.getLast? | pure ty
 let mut ovls := []
 if last.asFn?.isSome then
  if let some res <- Evals.tyOfFn last.node then
   let prev := res.decorated
   if prev.isFn && prev.fn.flags.ovld then ovls := [prev]
   else if prev.isOvld then
    if prev.impl?.isSome then return ty
    ovls := prev.ovls
 let impl := if ty.isFn && ty.fn.flags.ovld then none else ty
 if impl.isNone then ovls := ovls ++ [ty]
 match ovls, impl with
 | [single], none => pure single
 | [], some impl => pure impl
 | _, _ =>
  if let some msg := impl.bind fun ty => if ty.isFn then ty.fn.depr else none then
   ovls := ovls.map (·.withFn fun data =>
    if data.flags.ovld && data.depr.isNone then {data with depr := msg} else data)
  return .ofOvls ovls impl

def tyOfDflt? (val : Node) : Eval Ty? := do
 let ty := (<- tyOf val {dotsToAny := true}).ty
 let mut hit := none
 if ty.isNoneInst || ty.isSentinel || (ty.isObj && Name.isPrivateOrProtected ty.clsName) then
  hit := some (.combine [ty, .unk])
 else if !(ty.isRoutine || (ty.isObjIn ["tuple", "list", "set", "dict"])) then
  hit := (<- stripLit (<- runtimeVal ty {} true).stripTyForm)
 let file <- fileOf val
 return if file.isTypedPkg && !file.isStub then hit.map (·.asAmbiguous) else hit

variable (node : Node) (pars : Nodes) (body : Node)
def manyTy (cat : ParCat) (ty : Ty) : Eval Ty := do
 if cat == .simple || (ty.isSigVar && ty.var.access.isSome) then return ty
 if cat == .argsList then
  if ty.isUnpCls then return ty.pack
  return <- tupObj [{ty, isUnb := !ty.isTupVar}]
 if ty.isObj && ty.cls.isUnp && (<- flagsOf ty).tdict then return ty.pack
 let dict <- builtinTy node "dict"
 let str <- builtinObj node "str"
 return if dict.isClsObj && str.isObj then (dict.spec [str, ty]).clsInst else .unk

def adjustParTy (parts : ParParts Node) (ty : Ty) : Eval Ty := do
 if (parts.dfltVal.any (·.kind matches .const .noneKw)) && !ty.isOpt && !(<- isOn node .strictParNoneVal) then
  return .combine [ty, <- noneTy]
 pure ty

def tyOfParHint (hint : Node) (cat : ParCat) :=
 Evals.tyOfAnnot hint {bindsTyVars := true, allowUnpTup := cat == .argsList, allowUnpTdict := cat == .kwargsDict}

def lambdaIn (goal : Ty?) (want : Want?) (onlyTries : Bool) : Eval Typed := do
 let live <- tyVarScopes node
 let u <- univ
 let goal := goal.map (u.unifyVarsOutside live node.start)
 let list := goal.map (u.parList ·)
 let goalRet <- goal.mapM effRet
 let base : FnData := {scopeId := some (.ofNode node)}
 writeTy node {ty := .ofFn {base with flags := {unfinished := true}}, draft := true}
 let mut made := []
 let mut arePosOnly := true
 let mut clash := false
 for (par, idx) in pars.zipIdx do
  let some parts := par.parParts? | continue
  let mut ty := none
  if let some list := list.filter fun _ => !clash then
   if h : idx < list.pars.size then
    let given := list.pars[idx]
    if given.cat == parts.cat && parts.name.isSome == given.name?.any (!·.isEmpty) then ty := given.ty
    else clash := true
   else if let some val := parts.dfltVal then ty := (<- tyOf val {} want).ty
  else if let some val := parts.dfltVal then ty <- tyOfDflt? val
  let hit := ty.getD .unk
  if let some name := parts.name then writeTy name {ty := <- manyTy node parts.cat hit}
  if let some val := parts.dfltVal then discard (tyOf val {dotsToAny := true})
  let isNamed := parts.cat == .simple && parts.name.isSome
  let isImplicit := isNamed && parts.name.any (Name.isPrivate ·.nameVal)
  if isNamed && arePosOnly && !isImplicit && !made.isEmpty then made := made ++ [Ty.posSep]
  if !isImplicit then arePosOnly := false
  made := made ++ [{cat := parts.cat, ty := hit, flags := {tyDecl := true}
                    name := parts.name.map (·.nameVal), dfltTy := parts.dfltVal.map fun _ => .ellipsis
                    dfltExpr := parts.dfltVal}]
 if arePosOnly && !made.isEmpty then made := made ++ [Ty.posSep]
 let isTrial := onlyTries || (<- isSpecul node) || want.any (·.draft)
 let allowDiags := !onlyTries && !(<- canSkipDiag node) && !want.any (·.draft)
 let (res, ty) <- trying (if isTrial then body else none) (do
  let res <- tyOf body {} (Want.make goalRet)
  let ty := .ofFn {base with pars := made, inferredRet := res.ty}
  if let some goalRet := goalRet then
   if !res.tyErrs && (<- univ).needsSpec goalRet then
    let (fits, constrs) <- Match.constrained {} (assign goalRet res.ty)
    if fits then return (res, <- solve ty constrs (<- unsolvedIn []))
   pure (res, ty)
  else pure (res, ty)) (want.map (·.ty)) allowDiags
 let misfits <- goal.elim (pure false) (not <$> canAssign · ty)
 pure {ty, draft := want.any (·.draft) || res.draft, tyErrs := res.tyErrs || misfits}

def tyOfLambda (want : Want?) : Eval Typed := do
 let mut goal := []
 if let some want := want then
  for mem in want.ty.subtys do
   if mem.isFn then goal := goal ++ [mem]
   if mem.isObj then
    if let some meth <- Match.plain (magicMeth? mem "__call__") then if meth.isFn then goal := goal ++ [meth]
 if goal.length > 1 then
  goal := (<- univ).sortTys goal
  for fn in goal do
   if !(<- lambdaIn node pars body fn want true).tyErrs then return <- lambdaIn node pars body fn want false
 lambdaIn node pars body goal.head? want false

def tyOfYield (expr : Node?) : Eval Typed := do
 let mut yielded := none
 let mut sent := none
 if let some fn := (<- tree).enclFn? node then
  if let some res <- Evals.tyOfFn fn then
   let u <- univ
   if let some ret := u.effRet? res.fnTy.fn then
    let live <- tyVarScopes node
    let ret := u.bindVarsOf live ret
    yielded := ret.genYield? (fn.fnParts?.any (·.isAsync))
    sent := ((Univ.genArgs? ret).bind (·[1]?)).map (u.bindVarsOf live)
 let res <- if let some expr := expr then tyOf expr {} (Want.make yielded) else pure .unk
 pure {ty := sent.getD .unk, draft := res.draft}

def tyOfYieldFrom (expr : Node) : Eval Typed := do
 let res <- tyOf expr
 let ret args := if args.length >= 2 then args[2]? else some .unk
 res.ty.mapM fun mem => do
  if let some args := Univ.genArgs? mem then return ret args
  if mem.isObjIn ["Coroutine", "CoroutineType"] then return some .unk
  return ret ((Univ.genArgs? ((<- iterOf res false node).elim .unk (·.ty))).getD [])

def markParRead (par : Node) : Act := do
 if let some name := par.parParts?.bind (·.name) then
  if let some hit <- lookUpName name name.nameVal false then markRead hit.sym name

def inferredParTy? (parts : FnParts Node) (flags : FnFlags) (idx : Nat) (owner : Ty?) : Eval Ty? := do
 if let some owner := owner then
  if idx == 0 && !flags.staticMeth then return owner.selfVar (flags.clsMeth || flags.ctorMeth)
  if let some mem <- clsMem? owner parts.name.nameVal {skipOrigCls := true} then
   if let [decl] := <- declsOf mem.sym then
    if let some base := decl.node.fnParts? then
     let shape pars := pars.map fun par =>
      (par.parParts?.map fun parts => (parts.cat, parts.name.map (·.nameVal)))
     if shape base.pars == shape parts.pars then
      if let some par := (base.pars[idx]?.bind (·.parParts?)) then
       if let some hint := par.hint.or par.hintCmt then
        let mut ty <- tyOfParHint hint par.cat
        let u <- univ
        if u.needsSpec ty && mem.clsTy.isCls then
         ty := u.applySol ty (u.solOf mem.clsTy) (<- unsolvedIn (mem.clsTy.scopeIds ++ [.ofNode decl.node]))
        let file <- fileOf parts.name
        return if file.isTypedPkg && !file.isStub then ty.asAmbiguous else ty
 let some val := (parts.pars[idx]?.bind (·.parParts?)).bind (·.dfltVal) | pure none
 tyOfDflt? val

structure ParWalk where
 data : FnData
 (tys tyPars : Tys := [])
 listed : Option Tys := none
 posOnly := true

def ParWalk.publish (walk : ParWalk) (name : Node) :=
 writeTy name (Ty.ofFn {walk.data with
  flags := {walk.data.flags with unfinished := true}, tyPars := walk.listed.getD walk.tyPars})

variable (node : Node)
def addParameter (parts : FnParts Node) (owner : Ty?) (isOwnerProto : Bool) (firstHint firstPlain : Nat)
  (walk : ParWalk) (ent : Node × Nat) : Eval ParWalk := do
 let (parNode, idx) := ent
 let some par := parNode.parParts? | pure walk
 let mut walk := walk
 walk.publish parts.name
 let flags := walk.data.flags
 if idx < firstPlain || flags.absMeth || isOwnerProto then markParRead parNode
 let cmt := if let some (.fnTyCmt false hints _) := Node.kindOf? parts.hintCmt then
   if idx < firstHint then none else hints[idx - firstHint]?
  else none
 let hint := par.hint.or (par.hintCmt.or cmt)
 let scope := walk.data.scopeId
 let addVars seen ty := do
  return Univ.addUniqueVars seen (((<- univ).tyVarsOf ty).filter (·.var.scopeId == scope))
 let mut stated := none
 if let some hint := hint then
  let ty <- if flags.noTyCheck then pure .unk else tyOfParHint hint par.cat
  walk := {walk with tyPars := <- addVars walk.tyPars ty}
  if ty.isTupVar && !ty.var.isUnp then
   badForm "unpTupVarWant" hint [ty.shared.name, ty.shared.name]
   stated := some .unk
  else stated := ty
 else if let (some owner, some name) := (owner, par.name) then
  if owner.isPseudo && parts.name.nameVal == "__init__" && idx > 0 && par.cat == .simple && par.dfltVal.isNone then
   stated := ((<- univ).tyPars owner).find? (·.shared.name == "__type_of_" ++ name.nameVal)
 if let some ty := stated then stated := (<- adjustParTy parNode par ty)
 let mut default := none
 if let some val := par.dfltVal then
  let dotsToAny := (<- inStub node) || Node.isStubSuite parts.suite || isOwnerProto || flags.ovld || flags.absMeth
  let ty := (<- tyOf val {dotsToAny} (Want.make stated)).ty
  default := ty
  if let some goal := stated then
   let (fits, notes) <- (assign goal ty).explained
   if !fits then flag .argumentTy "parBad" val [<- printTy ty, <- printTy goal] notes
 if idx >= firstPlain then
  let mut isPrivate := false
  match par.cat, par.name with
  | .simple, some name =>
   isPrivate := Name.isPrivate name.nameVal && !parts.pars.any fun other =>
    other.parParts?.any fun other => other.cat == .simple && other.name.isNone
   if isPrivate && !walk.posOnly && walk.data.pars.all (·.cat == .simple) then blame "posOnlyAfterNon" name
  | _, _ => walk := {walk with posOnly := false}
  if walk.posOnly && !isPrivate && walk.data.pars.length > firstPlain then
   walk := {walk with data := walk.data.addPar Ty.posSep}
  if !isPrivate then walk := {walk with posOnly := false}
 let inferred <- if hint.isNone then inferredParTy? parts flags idx owner else pure none
 let ty := (inferred.or stated).getD .unk
 let made :=
  {cat := par.cat, ty, flags := {tyInferred := hint.isNone, tyDecl := hint.isSome}
   name := par.name.map (·.nameVal), dfltTy := default, dfltExpr := par.dfltVal}
 let tyPars <- if hint.isSome then addVars walk.tyPars ty else pure walk.tyPars
 let bound <- if par.name.isSome then manyTy node par.cat ty else pure ty
 pure {walk with data := walk.data.addPar made, tyPars, tys := walk.tys ++ [bound]}

def undecorated : Eval Ty? := do
 let some parts := node.fnParts? | pure none
 if let some ty := (<- cachedTy? parts.name).filter (·.isFn) then return ty
 let file <- fileOf node
 let decl := (<- bound? node).bind (·.nodeDecl[node.id]?)
 let anc <- tree
 let clsNode := anc.enclCls? node true
 let owner <- clsTyOf? clsNode
 let decorated <- decoFacts node clsNode.isSome
 let name := parts.name.nameVal
 let isGen <- decl.elim (pure false) fun id => return (<- declAt id).asFn?.any (·.isGen)
 let flags := {decorated.flags with
  gen := isGen, stub := file.isStub, typedPkg := !file.isStub && file.isTypedPkg, async := parts.isAsync
  builtIn := file.isBuiltinStub || file.isTypingStub || file.isTypingExtensionsStub}
 let outer := (anc.properAncestors node).filterMap fun hit =>
  ((hit.clsParts?.map (·.name)).or (hit.fnParts?.map (·.name))).map (·.nameVal)
 let scopeId := TyScopeId.ofNode node
 let start :=
  {name, fullName := ".".intercalate ((file.modName :: outer.reverse) ++ [name]), modName := file.modName
   flags := {flags with unfinished := true}, decl, scopeId, depr := decorated.deprecated
   methCls := owner
   ctorScopeId := if name == "__init__" || name == "__new__" then clsNode.map .ofNode else none}
 if let (some id, some scope) := (decl, <- scopeOf? node) then
  if let some hit := (<- get).scopes.lookUp? scope name then setPartialTy hit.sym id (.ofFn start)
 writeTy parts.name (Ty.ofFn start)
 let mut firstHint := if owner.isSome && !flags.staticMeth then 1 else 0
 if let some cmt := parts.hintCmt then
  if let .fnTyCmt false hints _ := cmt.kind then
   let (count, got) := (parts.pars.length, hints.length)
   if firstHint > 0 && got == count then firstHint := 0
   else if got + firstHint != count then
    badForm "annotatedParNumBad" cmt [(toString ((count : Int) - firstHint)), got.repr]
 let stated <- parts.tyPars.mapM fun list => return (<- tyParList list).map (·.toInst)
 let firstPlain := if owner.isSome && (!flags.staticMeth || flags.clsMeth || flags.ctorMeth) then 1 else 0
 let isOwnerProto <- owner.elim (pure false) ((·.proto) <$> flagsOf ·)
 let mut walk <- parts.pars.zipIdx.foldlM (addParameter node parts owner isOwnerProto firstHint firstPlain)
  {data := {start with flags}, listed := stated}
 if walk.posOnly && walk.data.pars.length > firstPlain then
  walk := {walk with data := walk.data.addPar Ty.posSep}
 let live <- tyVarScopes node
 let mut data := walk.data
 for (ty, par) in walk.tys.zip parts.pars do
  if let some nameNode := par.parParts?.bind (·.name) then
   if ty.isUnk then data := {data with flags.barePars := true}
   writeTy nameNode ((<- univ).bindVarsOf live ty)
 let endsInSpec := if let last :: before :: _ := walk.tys.reverse then
   before.isSigVar && before.var.access == some .args && last.isSigVar && last.var.access == some .kwargs
  else false
 let openCount := (data.pars.filter fun par =>
  par.cat != .simple && par.name.isSome && par.ty.isAnyLike).length
 if endsInSpec || openCount >= 2 then data := {data with flags.gradual := true}
 let retHint := parts.retHint.or (if let some (.fnTyCmt _ _ hint) := Node.kindOf? parts.hintCmt then hint else none)
 let mut tyPars := walk.tyPars
 if let some hint := retHint then
  ({walk with data := {data with declRet := some .unk}} : ParWalk).publish parts.name
  let ty <- Evals.tyOfAnnot hint {bindsTyVars := true}
  data := {data with declRet := ty}
  tyPars := Univ.addUniqueVars tyPars (((<- univ).tyVarsOf ty).filter (·.var.scopeId == scopeId))
 else if file.isStub then data := {data with declRet := (<- if name == "__init__" then noneTy else pure .unk)}
 data := {data with tyPars := stated.getD tyPars}
 checkParDflts parts.name (tyParNodes parts.tyPars) data.tyPars scopeId
 let ty := Ty.ofFn data
 writeTy parts.name ty
 pure ty

def asyncFn (ty : Ty) : Eval Ty := do
 let data := ty.fn
 let flags := {data.flags with async := false, unfinished := false}
 if let some ret := data.declRet then
  return .ofFn {data with flags, declRet := (<- coroOf node ret data.flags.gen)}
 else
  return .ofFn {data with flags, inferredRet := (<- coroOf node (<- Evals.inferRet ty none).ty data.flags.gen)}

def tyOfFn : Eval (Option FnTyRes) := do
 prefetch node
 let some parts := node.fnParts? | pure none
 let fn <- match <- cachedTy? parts.name with
  | some ty =>
   if !ty.isFn then return none
   if ty.fn.flags.unfinished then return some {fnTy := ty, decorated := ty}
   pure ty
  | none => if let some ty <- undecorated node then pure ty else return none
 if let some decorated <- cachedTy? node then return some {fnTy := fn, decorated}
 let unfinished := fn.withFn ({· with flags.unfinished := true})
 writeTy parts.name unfinished
 writeTy node unfinished
 let mut fn := fn
 let mut decorated <- if parts.isAsync then asyncFn node fn else pure fn
 let mut hitUnk := false
 let outer := (<- parent? node).getD node
 for deco in parts.decos.reverse do
  let (next, behav) <- trackingSigs outer (applyFnDeco decorated deco node)
  if behav.isSome then fn := fn.withFn ({· with decoBehav := behav})
  if ((<- univ).findAnyOrUnk? next false).any (·.isUnk) then
   if !hitUnk then
    flag .untypedFnDeco "fnDecoTyUnk" (decoExpr deco)
    hitUnk := true
  else decorated := next
 if decorated.isFn then
  decorated := decorated.withFn ({· with depr := fn.fn.depr})
  if decorated.fn.flags.ovld then parts.pars.forM markParRead
 decorated <- addOvls node decorated
 writeTy node decorated
 writeTy parts.name fn
 return some {fnTy := fn, decorated}

end TypeChecker.Infer
