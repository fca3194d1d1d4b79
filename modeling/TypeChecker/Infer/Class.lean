import TypeChecker.Infer.Function

/-! The types of classes. -/

namespace TypeChecker.Infer
variable [Evals] (ty : Ty)
def findMcls (site : Node) : Eval Ty := do
 let u <- univ
 let mut hit := (u.info ty).declMcls
 let mut isReported := false
 if hit.all (·.isClsObj) then
  for base in (u.info ty).bases do
   if !base.isClsObj then
    hit := some .unk
    break
   let mcls := (u.info base).metaTy.or (<- prefetched).tyCls
   let some mcls := mcls
    | hit := none break
   if !mcls.isClsObj then
    hit := some .unk
    break
   let some known := hit | hit := mcls
   if u.derivesFromCls mcls known false then hit := mcls
   else if !u.derivesFromCls known mcls false && !isReported then
    let note := say "metaClashNote" [<- printTy known.toInst, <- printTy mcls.toInst]
    blame "metaClash" site [] (.ofMsg note)
    isReported := true
 let mcls <- if let some mcls := hit then pure mcls
  else do
   let ty <- builtinTy site "type"
   pure (if ty.isClsObj then ty else .unk)
 changeCls ty ({· with metaTy := mcls})
 pure mcls

variable (node : Node)
def deferCompletion (dependsOn : Ty?) : Act :=
 modify fun world =>
  let ents := world.deferredClasses
  {world with deferredClasses := match dependsOn with
  | none => ents.map fun (ty, nodes) => (ty, nodes ++ [node])
  | some ty =>
   if ents.any (·.1.sameCls ty) then
    ents.map fun ent => if ent.1.sameCls ty then (ent.1, ent.2 ++ [node]) else ent
   else ents ++ [(ty, [node])]}

def runCompletions : Act := do
 for (dependsOn, nodes) in (<- get).deferredClasses do
  if dependsOn.sameCls ty then
   for node in nodes do
    if let some name := node.clsParts?.map (·.name) then
     if let some hit <- cachedTy? name then
      if !(<- computeMro hit) then blame "methOrder" name
      let _ <- findMcls hit name
 modify fun s => {s with deferredClasses := s.deferredClasses.filter (!·.1.sameCls ty)}

structure ClsArgs where
 flags : ClsFlags
 (bases tyPars : Tys := [])
 (generic proto : Option Tys := none)
 isNamedTup := false
 mcls : Node? := none
 others : List Arg := []
 extraItems : Node? := none
 sawExtra := false

def listedPars :=
 ty.tyArgs.zipIdx.mapM fun (arg, idx) => do
  if arg.isTyVar then return arg
  pure (Ty.ofVar {id := <- freshVarId, name := "__P" ++ idx.repr, isSynth := true}).tyVarInst

def addBase (ty : Ty) (hasTyPars : Bool) (flags : EvalFlags) (arg val : Node) (cat : ArgCat) (args : ClsArgs) :
  Eval ClsArgs := do
 let mut args := args
 let file <- fileOf node
 let mut base := .unk
 if cat == .unpList then let _ <- tyOf val
 else
  base := (<- tyOf val flags).ty
  if base.isTyVar && base.special?.any (·.isInst) then
   blame "baseBad" arg
   base := .unk
  base <- firm base
 if base.isUnion then base := base.removeUnbound
 if base.isAny && base.special?.isSome then base := .any
 base := base.stripTyFormDeep
 if !base.isAnyLike && !base.isUnbound then
  let u <- univ
  if base.isCls && base.depth > 0 then if let some mcls := (u.info base).metaTy.filter (·.isCls) then base := mcls
  if u.isMclsInst base then base := base.tyArgs.headD .unk
  else if !base.isClsObj then
   blame "baseBad" arg
   base := .unk
  else
   let info := u.info base
   if info.flags.unfinished || info.mro.any fun sup => sup.isCls && (u.flags sup).unfinished then
    deferCompletion node base
   if base.isNamed "Protocol" then
    if !file.isStub && !info.flags.typingExt && file.ver.isLessThan (.three 7) then badForm "protoBad" val
    args := {args with flags.proto := true}
   if base.isNamed "property" then args := {args with flags.prop := true}
   if file.ver.isAtLeast (.three 6) && base.isNamed "NamedTuple" then args := {args with isNamedTup := true}
   if base.isNamed "TypedDict" || info.flags.tdict then
    args := {args with flags := {args.flags with
     tdict := true
     isClosedDict := args.flags.isClosedDict || info.flags.isClosedDict}}
   if u.derivesFromCls base ty true then
    blame "baseLoop" arg
    base := .unk
   if base.special?.any (·.isNamed "TypeAliasType") then
    blame "tyAliasTyBase" arg
    base := .unk
 if base.isUnk then flag .untypedBaseCls "baseUnk" arg
 if base.isClsObj && args.bases.any fun other => other.isClsObj && base.sameCls other then blame "dupBase" arg
 args := {args with bases := args.bases ++ [base]}
 let u <- univ
 if base.isClsObj then
  let flags := u.flags base
  args := {args with flags := {args.flags with
   enum := args.flags.enum || flags.enum, hasAbs := args.flags.hasAbs || flags.hasAbs || flags.proto
   prop := args.flags.prop || flags.prop}}
  if flags.final then blame "baseFinal" val [<- printObjTy base]
 args := {args with tyPars := Univ.addUniqueVars args.tyPars (u.tyVarsOf base)}
 if base.isClsObj then
  if base.isNamed "Generic" then
   if hasTyPars then blame "genBaseBad" val
   else if args.generic.isNone then
    if args.proto.isSome then blame "dupGenAndProtoBase" val
    args := {args with generic := (<- listedPars base)}
  else if base.isNamed "Protocol" && !base.tyArgs.isEmpty && args.proto.isNone then
   if args.generic.isSome then blame "dupGenAndProtoBase" val
   let pars <- listedPars base
   if hasTyPars && !pars.isEmpty then blame "protoBaseWithTyArgs" val
   args := {args with proto := some (if hasTyPars then [] else pars)}
 pure args

def addClsArg (name val arg : Node) (args : ClsArgs) : Eval ClsArgs := do
 let key := name.nameVal
 if args.flags.tdict then
  let isExperimental <- isOn node .enableTrialFeatures
  if key == "total" || key == "closed" then
   match (<- staticFacts node).val? val with
   | none => blame "tdBoolPar" val [key]
   | some given =>
    if key == "total" && !given then return {args with flags.canOmitDictVals := true}
    if key == "closed" && isExperimental then
     if given then if let some items := args.extraItems then blame "tdExtraItemsClosed" items
     if args.sawExtra then blame "tdExtraItemsClosed" val
     return {args with sawExtra := true, flags := {args.flags with
      tdictClosed := args.flags.tdictClosed || given, isClosedDict := args.flags.isClosedDict || given}}
   return args
  if key == "extra_items" && isExperimental then
   if args.flags.tdictClosed then blame "tdExtraItemsClosed" val
   if args.sawExtra then blame "tdExtraItemsClosed" val
   return {args with extraItems := val, sawExtra := true, flags.isClosedDict := true}
  blame "tdInitsubclassPar" arg [key]
  return args
 if key == "metaclass" then
  if args.mcls.isSome then blame "metaDup" arg
  return {args with mcls := args.mcls.or val}
 pure {args with others := args.others ++ [.ofNode arg]}

def pseudoPars (name : String) (init : SymId?) : Eval Tys := do
 let some init := init | pure []
 let [decl] := <- typedDecls init | pure []
 let some parts := decl.node.fnParts? | pure []
 if parts.pars.length <= 1 || (List.range parts.pars.length).any fun idx => (Node.hintOfPar? parts idx).isSome then return []
 (parts.pars.drop 1).filterMapM fun par => do
  let some par := par.parParts? | pure none
  let some parName := par.name | pure none
  if par.cat != .simple || par.dfltVal.isSome then return none
  let var := Ty.ofVar {id := <- freshVarId, name := "__type_of_" ++ parName.nameVal, isSynth := true, bound := some .unk}
  return var.tyVarInst.setVarScope (.ofNode node) name (some .clsDef)

variable (parts : ClsParts Node)
def checkClsPars (tyPars own : Tys) (scope : TyScopeId) : Act := do
 let nodes := tyParNodes parts.tyPars
 let variadics := tyPars.filter (·.isTupVar)
 if variadics.length > 1 then
  let span := match parts.args.head?, parts.args.getLast? with
   | some first, some last => some {start := first.start, length := last.stop - first.start}
   | _, _ => none
  report .general (say "manyTyParOverCls" [quotedVars variadics]) parts.name span
 else checkBehindMany parts.name nodes tyPars
 checkParDflts parts.name nodes own scope

def evalCls : Eval ClsTyRes := do
 let file <- fileOf node
 let name := parts.name.nameVal
 let isBuiltIn := (<- scopeKindOf? node) == some .builtin || file.isTypingStub || file.isTypingExtensionsStub || file.isBuiltinStub ||
  file.isTypeshedStub
 let scopeId := .ofNode node
 let fullName := (<- tree).qualifiedName node file.modName name
 let decl := (<- bound? node).bind (·.nodeDecl[node.id]?)
 let flags :=
  {builtIn := isBuiltIn, typingExt := isBuiltIn && file.isTypingExtensionsStub, prop := isBuiltIn && name == "property"
   tup := isBuiltIn && name == "tuple", definedInStub := file.isStub, unfinished := true}
 let start <- makeCls {id := 0, name, fullName, modName := file.modName, srcId := node.start, scopeId := some scopeId}
  {flags, uri := .file file.path, decl}
 let mut ty := start.withCls ({· with includePromotions := promotions.any (·.1 == fullName)})
 if let (some id, some scope) := (decl, <- scopeOf? node) then
  if let some sym := ((<- get).scopes.scope scope).sym? name then setPartialTy sym id ty
 writeTy node ty
 writeTy parts.name ty
 let tyPars <- parts.tyPars.elim (pure []) fun list => return (<- tyParList list).map (·.tyVarInst)
 let exprFlags :=
  {instaTy := true, allowGeneric := true, noNakedGeneric := true, noTyVarWithScopeId := true
   bindsTyVars := true, sameVariance := true, fwdRefs := file.isStub}
 let mut args : ClsArgs := {flags, tyPars}
 for arg in parts.args do
  let (cat, argName, val) := if let .arg cat argName val := arg.kind then (cat, argName, val) else (.simple, none, arg)
  if cat == .unpDict then let _ <- tyOf val
  else if let some argName := argName then args <- addClsArg node argName val arg args
  else args <- addBase node ty parts.tyPars.isSome exprFlags arg val cat args
  let hit := args
  changeCls ty ({· with flags := hit.flags, bases := hit.bases, tdictExtraItems := hit.extraItems})
 let known := args.bases.filter (·.isClsObj)
 if args.bases.length > 1 && known.any (·.isNamed "NamedTuple") && known.any (!·.isBuiltIn ["NamedTuple", "Generic"]) then
  blame "ntBases" parts.name
 let bases <- if !(isBuiltIn && name == "object") && !args.bases.any (·.isCls) then do
   pure (args.bases ++ [<- builtinTy node "object"])
  else pure args.bases
 let listed := args.generic.or args.proto
 if let some listed := listed then
  if parts.tyPars.isNone then
   let missing := args.tyPars.filter fun par => !listed.any (·.shared.name == par.shared.name)
   if !missing.isEmpty then
    blame "tyVarsNotInGenOrProto" parts.name [] (.ofMsg (say "tyVarsGone" [quotedVars missing]))
 let own := listed.getD args.tyPars
 changeCls ty ({· with
  bases, tyPars := own
  infersVariance := own.any fun par => par.shared.declVariance == .auto && par.var.computedVariance.isNone})
 checkClsPars parts args.tyPars own scopeId
 if !(<- computeMro ty) then blame "methOrder" parts.name
 let inner <- (<- scopeOf? parts.suite).mapM fun id => return (<- get).scopes.scope id
 let mut fields := (inner.map .ofScope).getD {}
 if fields.contains "__eq__" && !fields.contains "__hash__" then
  fields := fields.set "__hash__" (<- makeSym
   {clsMem := true, clsVar := true, noProto := true, noOverrideCheck := true} (<- noneTy))
 let table := fields
 changeCls ty ({· with fields := table, localSlots := inner.bind (·.slots)})
 if !file.isStub && own.isEmpty then
  let pars <- pseudoPars node name (table.get? "__init__")
  if !pars.isEmpty then
   changeCls ty ({· with tyPars := pars})
   ty := ty.withCls ({· with ref.isPseudo := true})
   writeTy node ty
   writeTy parts.name ty
 let u <- univ
 if (u.tyPars ty).isEmpty && !(isBuiltIn && name == "type") then
  if table.contains "__class_getitem__" || bases.any fun base => base.isClsObj && (u.flags base).customClsGetItem then
   changeFlags ty ({· with customClsGetItem := true})
 if let some mclsNode := args.mcls then
  let mut mcls := (<- tyOf mclsNode exprFlags).ty
  if mcls.isClsObj || mcls.isUnk then
   let u <- univ
   if u.needsSpec mcls {ignorePseudo := true} then blame "metaIsGen" mclsNode
   if mcls.isCls && mcls.depth > 0 then if let some hit := (u.info mcls).metaTy.filter (·.isCls) then mcls := hit
   let hit := mcls
   changeCls ty ({· with declMcls := hit})
   if hit.isClsObj then
    changeFlags ty fun flags => {flags with
     enum := flags.enum || isEnumMcls u hit, hasAbs := flags.hasAbs || u.derivesFromBuiltIn hit "ABCMeta"}
 let mcls <- findMcls ty parts.name
 changeFlags ty ({· with unfinished := false})
 let mut decorated := ty
 let mut hitUnk := false
 let outer := (<- parent? node).getD node
 for deco in parts.decos.reverse do
  let next <- trackingSigs outer (applyClsDeco decorated ty deco)
  if ((<- univ).findAnyOrUnk? next false).any (·.isUnk) then
   if !hitUnk then
    flag .untypedClsDeco "clsDecoTyUnk" (decoExpr deco)
    hitUnk := true
  else decorated := next
 let u <- univ
 let behav := (if mcls.isClsObj then (u.info mcls).dataClsMorph else none).or
  ((u.mro ty).findSome? fun sup =>
   if sup.isCls && !sup.sameCls ty then (u.info sup).dataClsMorph else none)
 if let some behav := behav then applyBehav parts.name ty args.others behav
 runCompletions ty
 deferCompletion node none
 if args.flags.tdict then
  let invalid := bases.filter fun base =>
   base.isCls && !(u.flags base).tdict && !base.isBuiltIn ["_TypedDict", "TypedDictFallback", "Generic"]
  if !invalid.isEmpty then
   let notes := invalid.foldl (fun notes base => notes.say "tdBaseNote" [base.clsName]) .empty
   blame "tdBase" parts.name [] notes
  addTdictMeths node ty
 let behav := (<- infoOf ty).dataClsBehav
 if behav.isSome || args.isNamedTup then
  let skipInit := behav.any (·.skipGenerateInit)
  let isMem name : Eval SymId? := do match (<- infoOf ty).fields.get? name with
   | some sym => return if (<- symFlags sym).clsMem then sym else none
   | none => pure none
  let hasInit := (<- isMem "__init__").isSome
  let skipHash <- (<- isMem "__hash__").elim (pure false) ((·.isNone) <$> synthTy? ·)
  let plan := {node, skipInit, hasExistingInit := skipInit || hasInit, skipHash}
  if args.isNamedTup then addDataClsMeths node ty true plan else changeCls ty ({· with synthesis := plan})
 if name == "Any" && file.isTypingStub then decorated := .anyForm
 writeTy parts.name ty
 writeTy node decorated
 pure {clsTy := ty, decorated}

def tyOfCls : Eval (Option ClsTyRes) := do
 prefetch node
 let some parts := node.clsParts? | pure none
 let some clsTy <- cachedTy? parts.name | some <$> evalCls node parts
 if !clsTy.isClsObj then return none
 return some {clsTy, decorated := (<- cachedTy? node).getD .unk}

def varianceByUse (idx : Nat) (ignoresBases : Bool) : Eval Variance := do
 let dummy := .ofCls {id := (<- makeCls default {}).cls.ref.id, name := "__varianceDummy", fullName := "", modName := "", srcId := 0}
 let obj <- objTy
 let pars := ((<- univ).tyPars ty).zipIdx
 let src := ty.spec (pars.map fun (other, i) => if other.isTupVar then other else if i == idx then obj else dummy)
 let dest := ty.spec (pars.map fun (other, i) => if i == idx || other.isTupVar then other else dummy)
 if <- assignClsToSelf src dest .covar ignoresBases then return .covar
 return if <- assignClsToSelf dest src .contra ignoresBases then .contra else .invar

def inferVariance : Act := do
 if !(<- infoOf ty).infersVariance then return
 let isAuto par := par.shared.declVariance == .auto
 changeCls ty fun info => {info with
  infersVariance := false
  tyPars := info.tyPars.map fun par => if isAuto par then par.setComputedVariance .unk else par}
 for (par, idx) in ((<- univ).tyPars ty).zipIdx do
  if par.isTupVar || par.isSigVar || !isAuto par then continue
  let variance <- varianceByUse ty idx false
  changeCls ty fun info => {info with
   tyPars := info.tyPars.zipIdx.map fun (other, i) => if i == idx then other.setComputedVariance variance else other}

def checkSubclassArgs (ty : Ty) : Act := do
 let some parts := node.clsParts? | return
 let args := (parts.args.map .ofNode).filter (·.name.any (·.nameVal != "metaclass"))
 let u <- univ
 let newMem <- if let some mcls := (u.info ty).metaTy.filter (·.isCls) then
   if mcls.isBuiltIn ["ABCMeta", "type"] && !(u.flags ty).tdict then pure none
   else clsMem? mcls "__new__" {skipTyBase := true}
  else pure none
 if let some mem := newMem then
  let meth <- tyOfMem mem
  if meth.isFn then
   let list := (<- univ).parList meth
   if let some first := list.firstKwOnly then
    let mut open_ := (list.pars.toList.drop first).filter fun par =>
     par.cat == .simple && par.name?.isSome && par.kind != .byPos
    for arg in args do
     let some name := arg.name | continue
     if let some par := (open_.find? (·.name? == some name.nameVal)).or list.kwargs? then
      let _ <- checkArg {cat := par.cat, parTy := par.ty, arg, site := arg.val.getD parts.name}
       {} meth {skipUnkCheck := true}
      open_ := open_.filter (·.name? != name.nameVal)
     else blame "parNameGone" name [name.nameVal]
    let missing := (open_.filter (·.dfltTy.isNone)).map (·.name)
    if !missing.isEmpty then report .general (sayMissing missing) parts.name
 else if let some meth <- boundMem? parts.name ty "__init_subclass__"
   {skipClsMems := true, skipOrigCls := true, skipOverride := true} then
  if meth.clsTy.isSome then
   let (call, _) <- Evals.checkCall parts.name args meth.ty none {want := Want.make (<- noneTy)} 0
   if call.argErrs then blame "initSubclassCallFailed" parts.name
 for arg in args do if let some val := arg.val then let _ <- tyOf val

def createSubclass (site : Node) (first second : Ty) : Eval Ty := do
 let isObj := first.depth > 0 && second.depth > 0
 let (first, second) := if isObj then (first.clsInst, second.clsInst) else (first, second)
 let show_ ty := printTy ty.toInst {omitArgsIfUnk := true}
 let name := "<subclass of " ++ (<- show_ first) ++ " and " ++ (<- show_ second) ++ ">"
 let u <- univ
 let (lhs, rhs) := ((u.info first).metaTy, (u.info second).metaTy)
 let mcls <- match lhs, rhs with
  | some lhs, some rhs => do pure (some (if <- canAssign lhs rhs then rhs else lhs))
  | _, _ => pure (lhs.or rhs)
 let made <- newCls site name {} [first, second] mcls
 let made := (made.addConds first.conds).addConds second.conds
 return if isObj then made.clsObj else made

end TypeChecker.Infer
