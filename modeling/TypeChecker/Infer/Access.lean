import TypeChecker.Infer.TypeArgs
import TypeChecker.Infer.Assign.Type
import TypeChecker.Infer.Enum

/-! Names as expressions and access to attributes: what a name may stand for, how classes and objects find a member,
and the methods that stand in for attributes that are missing. -/

namespace TypeChecker.Infer
variable [Evals]
def isTySym (ty : Ty) (isVar : Bool) := do
 let u <- univ
 return !isVar || ty.aliasUse?.isSome || u.isHole ty
  || (ty.isTyVar && ty.special?.isSome)
  || (ty.isCls && !ty.cls.orSub && (u.flags ty).validTyAlias)
  || ty.isSentinel

variable (node : Node) (ty : Ty) (flags : EvalFlags) (isVar : Bool)
def addTyForm := do
 if !(<- hasTyForms node) then return ty
 let isValid <- isTySym ty isVar
 if ty.tyForm?.isSome then return if flags.keepSpec && !isValid then ty.setTyForm none else ty
 if !isValid then return ty
 let u <- univ
 let ty <-
  if ty.isTyVar && ty.var.scopeId.isSome && !ty.shared.isSynth then
   if ty.isTupVar && ty.var.isInUnion then pure ty
   else pure (ty.setTyForm (u.bindVarsOf (<- tyVarScopes node) ty).toInst)
  else if ty.isClsObj && !ty.cls.orSub && !u.isSpec ty then
   pure (ty.setTyForm (if ty.isNamed "Any" then Ty.any else (u.specDflt ty).clsInst))
  else pure ty
 if ty.aliasUse?.isSome && ty.isInsta then
  return ty.setTyForm (<- if flags.noSpec then pure ty else aliasWithDflts ty).toInst
 pure ty

def checkTySym : Eval Ty := do
 if (<- isTySym ty isVar) || (<- fileOf node).isTypingStub then return ty
 badForm "tyHintVar" node
 pure .unk

def runtimeVal (convertMod : Bool := false) : Eval Ty := do
 if flags.tyExpr || flags.instaTy || flags.keepSpec then return ty
 if convertMod && ty.isMod then if let some mod <- clsOf? (·.modTyCls) then return mod.clsInst
 if flags.instArg && ty.isUnion && ty.aliasUse?.any (!·.shared.isTyAliasTy) then return ty
 let some form := ty.special? | pure ty
 if flags.noSpec && ty.aliasUse?.isSome && !form.isNamed "TypeAliasType" then return ty
 return if ty.tyForm?.isSome then form.setTyForm ty.tyForm? else form

def reportMissingTyArgs : Eval Ty := do
 if flags.noSpec then return ty
 let mut ty := ty
 if ty.isClsObj then
  let data := ty.cls
  if flags.instaTy && !flags.allowMissingTyArgs && ty.aliasUse?.isNone
    && (<- univ).requiresTyArgs ty && !(data.tyArgs.isSome && data.hasOwnArgs) then
   flag .missingTyArg "tyArgsGoneForCls" node [data.aliasName.getD data.ref.name]
  if data.tyArgs.isNone then ty := (<- Evals.specCls ty none flags node).ty
 if flags.instaTy then aliasWithDflts ty node else pure ty

def reportTyCheckOnly (node : Node) : Act := do
 let u <- univ
 let isOnly := if ty.isClsObj then !ty.cls.orSub && (u.flags ty).tyCheckOnly else ty.isFn && ty.fn.flags.tyCheckOnly
 if isOnly && !(<- inStub node) then blame "tyCheckOnly" node [if ty.isFn then ty.fn.name else ty.clsName]

def tyOfHit (name : String) (hit : HitSym) (flags : EvalFlags) (useFlow : Bool) : Eval (Ty × Bool) := do
 let scope := (<- get).scopes.scope hit.scope
 let useFlow := useFlow && scope.kind != .builtin
 let info <- Evals.effTyOfSym hit.sym (if useFlow then node else none) false
 let eff := (<- univ).unrollAlias info.ty
 let eff := if info.draft && eff.isUnbound then .draftUnk else eff
 if info.isRecursive then if <- isReachable node then blame "loopDef" node [name]
 let mut ty := eff
 let mut draft := info.draft
 if useFlow && !(eff.isClsObj && (<- univ).isSpec eff) then
  let mut atStart : Typed := eff
  if hit.path.pastExec then
   if let some {ty := some outer, draft := open_, ..} <- capturedFlow? node hit eff then
    ty := outer
    atStart := {ty := outer, draft := open_}
  else if (<- symFlags hit.sym).startsUnbound then
   atStart := Ty.unbound
   let world <- get
   let builtin? := if scope.kind == .mod then
    scope.parent.bind fun parent => (world.scopes.scope parent).sym? name else none
   if let some sym := builtin? then atStart := <- effTy sym
  let flow <- Evals.flowTy node {sym := hit.sym, tyAtStart := atStart, skipConds := flags.tyExpr}
  ty := flow.ty.getD ty
  draft := draft || flow.draft
 ty <- reportMissingTyArgs node ty flags
 if flags.tyExpr then ty <- checkTySym node ty info.includesVar
 if ty.isTyVar && !ty.shared.isSynth then ty <- usedVar node ty flags
 pure (<- addTyForm node ty flags info.includesVar, draft)

def tyOfName : Eval Typed := do
 let name := node.nameVal
 let fwd := flags.fwdRefs || (<- inStub node)
 let find node := lookUpName node node.nameVal (!fwd) (fwd && flags.tyExpr)
 let hit? <- if let some hit <- find node then pure (some hit)
  else
   let some (.importFromAs imported (some asName)) := (<- tree).parentKind? node | pure none
   if imported == node then find asName else pure none
 let (ty, draft) <- match hit? with
  | some hit =>
   markRead hit.sym node
   if !(<- isOn node .analyzeBareFns) then
    if (((<- tree).enclFn? node).bind (·.fnParts?)).any Node.isUnannotated then return Ty.any
   tyOfHit node name hit flags (!fwd)
  | none =>
   if name == "reveal_type" || name == "reveal_locals" then pure (.any, false)
   else do
    flag .undefinedVar "symIsUndef" node [name]
    pure (.unk, false)
 let mut ty := ty
 if ty.isSigVar && ty.var.scopeId.isSome && flags.noParSpec then
  badForm "sigPlace" node
  ty := .unk
 if flags.instaTy && ty.isObj && ty.isSentinel then ty := ty.clsObj
 ty <- runtimeVal ty flags
 if !flags.tyExpr then reportTyCheckOnly ty node
 if flags.instaTy && !flags.allowGeneric && ty.isClsOf "Generic" then blame "genBad" node
 pure {ty, draft}

open Match
def AccessMeth.dunder (get set del : String) : AccessMeth -> String
 | .get => get
 | .set => set
 | .del => del

def callMeth (meth : Ty) (args : List Typed) :=
 (·.1) <$> Evals.checkCall node (args.map fun res => {res := some res}) meth none {skipUnkCheck := true} 0

variable (site : Node?)
def tyForAccess (mem : ClsMem) (selfCls : Ty?) (flags : MemFlags) : Eval Typed? := do
 if mem.clsTy.isAnyLike then return mem.clsTy
 if !mem.clsTy.isClsObj then return none
 let info <- if let some ty := mem.made then pure {ty} else Evals.effTyOfSym mem.sym none false
 let mut ty := info.ty
 if let some node := site then if flags.tyExpr then ty <- checkTySym node ty info.includesVar
 inferReturns ty
 let u <- univ
 let tyCls <- tyCls?
 if let (some node, some self) := (site, selfCls) then
  let isOpen ty := u.needsSpec ty {ignoreSelf := true, ignoreAutoArgs := true}
  if self.isCls && mem.isInstMem && mem.unspecCls.isCls && flags.disallowGenericInstVars && isOpen ty then
   let own := u.partlySpec ty mem.unspecCls tyCls (u.selfSpec self true)
   if own.subtys.any fun mem => !mem.isRoutine && isOpen mem then blame "genInstVarRead" node
 return some {ty := u.partlySpec ty mem.clsTy tyCls selfCls, draft := info.draft}

def differsOnSet (getter setter : Ty) := do
 if !getter.isFn || !setter.isFn then return false
 if setter.fn.pars.length < 3 || getter.fn.declRet.isNone then return false
 return !(setter.parTy 2).isSame (((<- univ).effRet? getter.fn).getD .unk)

variable (ty : Ty) (name : String) (usage : Usage) (flags : MemFlags)
def isAsymDescr : Ask := do
 if (<- flagsOf ty).prop then return ty.cls.isAsymDescr
 let own := {skipBaseClasses := true}
 match <- clsMem? ty "__get__" own, <- clsMem? ty "__set__" own with
 | some getter, some setter =>
  let getter <- tyOfMem getter
  let setter <- tyOfMem setter
  if setter.isOvld then return true
  if getter.isOvld then
   if let [only] := getter.ovls.filter fun ovl => decide (2 <= ovl.fn.pars.length) && !(ovl.parTy 1).isNoneInst then
    differsOnSet only setter
   else pure true
  else differsOnSet getter setter
 | _, _ => pure false

def isUnevenAccess : Ask := do
 let own := {skipBaseClasses := true}
 match <- clsMem? ty "__getattr__" own, <- clsMem? ty "__setattr__" own with
 | some getter, some setter => differsOnSet (<- symTyOf getter) (<- symTyOf setter)
 | _, _ => pure false

def attrOverride? (site : Node) (ty : Ty) (usage : Usage) (name : String) (self : Ty?) : Eval Typed? := do
 let find name := do
  let hit <- plain (Evals.boundMem site ty name {}
   {skipInstMems := true, skipObjBase := true, skipTyBase := true, skipOverride := true} self 0)
  return hit.map (·.ty)
 let meth? <- match usage.meth with
  | .get =>
   let some meth <- find "__getattribute__" | find "__getattr__"
   pure meth
  | .set => find "__setattr__"
  | .del => find "__delattr__"
 let some meth := meth? | pure none
 if !meth.isRoutine then return if meth.isAnyLike then meth else none
 let nameArg <- if let some str <- clsOf? (·.strCls) then pure (str.clsInst.setLit (some (.text (.ofString name))))
  else pure .any
 let val := if usage.meth == .set then [usage.setTy.getD .unk] else []
 let res <- callMeth site meth (.ofTy nameArg :: val)
 let isUneven <- pure (usage.meth == .set) <&&> isUnevenAccess ty
 return some {ty := res.retTy.getD .unk, isAsymAccessor := isUneven}

def propMethIn (prop : Ty) (usage : Usage) (mem : ClsMem) (meth ty : Ty) (self : Ty?) : Eval Ty := do
 inferReturns meth
 let info := match usage.meth with
  | .get => prop.cls.getter
  | .set => prop.cls.setter
  | .del => prop.cls.deleter
 let some owner := info.bind (·.clsTy) | pure meth
 let owner := (<- univ).selfSpec owner
 let (_, constrs) <- constrained {} (assign owner.clsInst mem.clsTy.clsInst)
 let owner <- solve owner constrs
 let seen := (<- univ).partlySpec meth owner (<- tyCls?) (self.elim ty (·.toInsta))
 return if seen.isRoutine then seen else meth

def throughDescr (memTy prop : Ty) (mem : ClsMem) (ty : Ty) (self : Ty?) (flags : MemFlags) (site : Node)
  (name : String) (usage : Usage) : Match (Typed × Bool) := do
 let failed ty := {ty, tyErrs := true}
 let u <- univ
 let methName := AccessMeth.dunder "__get__" "__set__" "__delete__" usage.meth
 let (hit, _) <- apart (Evals.boundMem site prop methName {} {skipInstMems := true, skipOverride := true} none 0)
 let some hit := hit.filter (!·.tyErrs)
  | if u.isProp prop && usage.meth != .get then
     note (if usage.meth == .set then "propGoneSetter" else "propGoneDel") [name]
     return (failed .any, false)
    pure (if let some scope := ty.cls.ref.scopeId then u.bindVarsOf [scope] memTy else memTy, false)
 let some owner := hit.clsTy | pure (failed .unk, false)
 if !hit.ty.isRoutine then return if hit.ty.isAnyLike then (hit.ty, false) else (failed memTy, false)
 let isProp := u.isProp prop && mem.clsTy.isClsObj
 if isProp && flags.skipInstMems && (u.flags ty).proto then
  note "propReadFromProtoCls"
  return (failed memTy, false)
 let meth <- if isProp then propMethIn prop usage mem hit.ty ty self else pure hit.ty
 let isUneven <- pure (usage.meth == .set && owner.isCls) <&&> isAsymDescr owner
 let clsObj := if ty.isInst then ty.clsObj else ty
 let obj <-
  if (u.flags prop).clsProp then pure clsObj
  else if ty.isInst then pure (self.getD ty.clsInst)
  else noneTy
 let rest := match usage.meth with
  | .get => [self.elim clsObj (·.toInsta)]
  | .set => [usage.setTy.getD .unk]
  | .del => []
 let (res, msgs) <- muting site true (callMeth site meth (obj :: rest))
 if <- isExplaining then (msgs.foldl Adden.addLines .empty).msgs.forM fun msg => noteMsg (pure msg)
 let accessDepr := (res.ovlsUsed.head?.bind (·.fn.depr)).map
  fun msg => {isProp := u.isProp prop, meth := usage.meth, msg}
 return ({ty := if res.argErrs then .unk else if usage.meth == .get then res.retTy.getD .unk else .any
          tyErrs := res.argErrs, isAsymAccessor := isUneven, accessDepr}, true)

def throughMeth (ty meth : Ty) (mem : ClsMem) (owner : Ty) (self : Ty?)
  (flags : MemFlags) (name : String) (usage : Usage) (depth : Nat) : Match Typed := do
 let impl := if meth.isFn then some meth else meth.impl?
 if usage.meth == .set && mem.clsTy.isCls && impl.any fun meth => meth.isFn && meth.fn.flags.final then
  note "finalMethOver" [name, mem.clsTy.clsName]
  return {ty := .unk, tyErrs := true}
 if owner.isInst && mem.isInstMem then return ty
 let bound <- bindMeth owner meth (some mem.clsTy |>.filter (·.isClsObj))
  flags.ctorAsClsMeth
  (self.map fun self => if self.isCls then self.setOrSub else self) depth
 pure {ty := bound.getD .unk, tyErrs := bound.isNone}

def tyForOwnWrite? (site : Node) (ty : Ty) (mem : ClsMem) (name : String)
  (usage : Usage) (flags : MemFlags) (self : Ty?) : Eval (Option (Ty × MemFlags)) := do
 if usage.meth == .get then return none
 let some clsNode := (<- tree).enclCls? site | pure none
 let some own := (<- Evals.tyOfCls clsNode).map (·.clsTy) | pure none
 if !own.isClsObj || !own.isOfSameCls ty then return none
 let declared := (<- declTy? mem.sym).map fun declared => (declared, mem.clsTy)
 let u <- univ
 let declared := declared.map fun (declared, owner) =>
  if owner.isClsObj then u.partlySpec declared owner none self else declared
 if usage.meth == .set && ty.isInst && actsAsClsVar (<- symFlags mem.sym) (<- isDataCls own) then
  let selfCls := if self.isSome || name == "__new__" then none else ty
  if let some res <- tyForAccess site mem selfCls flags then
   if <- isDescr res.ty then return some (res.ty, {noClsVarWrites := flags.noClsVarWrites})
 pure (declared.getD .unk, flags)

def noteWriteProblems (mem : ClsMem) (name : String) (flags : MemFlags) (applied : Bool) : Fits := do
 let mut failed := false
 if !applied && flags.noClsVarWrites && actsAsClsVar (<- symFlags mem.sym) (<- isDataCls ty) then
  note "memSetClsVar" [name]
  failed := true
 let final? := (<- declsOf mem.sym).find? isFinalDecl
 if let (some decl, some node) := (final?, site) then
  if !(<- isInside node decl.node) then
   let fn := ((<- tree).enclFn? node).bind (·.fnParts?)
   if fn.all (·.name.nameVal != "__init__") || ty.isClsObj || (decl.asVar?.bind (·.inferredSrc)).isSome then
    note "finalReset" [name]
    failed := true
 if mem.isInstMem && mem.clsTy.isCls && mem.isReadOnly then
  note "readOnlyAttr" [name]
  failed := true
 pure failed

variable (self : Ty?)
def accessMem (depth : Nat) : Match Typed? := do
 let declared <- clsMem? ty name {flags with declOnly := true}
 let mem? <- if declared.isSome then pure declared else clsMem? ty name flags
 let some mem := mem?
  | if let (some node, false) := (site, flags.skipOverride) then
     if let some res <- attrOverride? node ty usage name self then return res
    note "memUnk" [name]
    pure none
 if (<- symFlags mem.sym).initVar && mem.made.isNone then
  note "memIsInitVar" [name]
  return none
 let own <- if let some node := site then tyForOwnWrite? node ty mem name usage flags self else pure none
 let (hit, flags) <- if let some (ty, flags) := own then pure (.ofTy ty, flags)
  else
   let selfCls := if let some self := self then self.toInsta else if name == "__new__" then none else ty
   pure ((<- tyForAccess site mem selfCls flags).getD .unk, flags)
 if mem.clsTy.isCls && ((<- univ).flags mem.clsTy).tdict then
  if (<- typedDecls mem.sym).head?.any (·.asVar?.isSome) then
   note "memUnk" [name]
   return none
 let mut memTy := hit.ty
 if usage.meth == .get then
  if let some node := site then if mem.clsTy.isClsObj && mem.clsTy.isOfSameCls ty then markRead mem.sym node
  if memTy.isFn && (name == "__init_subclass__" || name == "__class_getitem__") then
   memTy := memTy.withFn ({· with flags.clsMeth := true})
 let mut res := {hit with clsTy := mem.clsTy}
 let mut applied := false
 let mut changed := #[]
 for part in memTy.subtys do
  let firmPart <- firm part
  let access <- match site, firmPart.isCls && (mem.isClsMem && !mem.isSlotsMem) with
   | some node, true => do
    let (access, byDescr) <- throughDescr part firmPart mem ty self flags node name usage
    applied := applied || byDescr
    pure access
   | _, _ =>
    if firmPart.isRoutine && firmPart.isInst then
     throughMeth part firmPart mem ty self flags name usage depth
    else pure part
  res := {res with
   tyErrs := res.tyErrs || access.tyErrs
   isAsymAccessor := res.isAsymAccessor || access.isAsymAccessor
   accessDepr := access.accessDepr.or res.accessDepr}
  if usage.meth != .get then
   if <- noteWriteProblems site ty mem name flags applied then res := {res with tyErrs := true}
  changed := changed.push (some access.ty)
 memTy := memTy.remapped memTy.subtys changed.toList {retainAlias := true}
 if let (.set, some val, false) := (usage.meth, usage.setTy, res.tyErrs) then
  if site.isSome && (<- hasTypedDecls mem.sym) then
   let narrowed <- if applied then pure val.ty else (·.ty) <$> narrowAssigned memTy val
   res := {res with narrowedForSet := narrowed}
  if !(<- below (assign memTy val.ty)) then
   if !val.draft then note "memPut" [printTy val.ty, name, printObjTy ty]
   res := {res with narrowedForSet := memTy, tyErrs := true}
  let owner := mem.clsTy
  if owner.isClsObj && ty.isInst && (<- infoOf owner).dataClsBehav.any (·.frozen) then
   note "dcFrozen" [printTy owner.clsInst]
   res := {res with tyErrs := true}
 return some {res with ty := memTy}

def accessBound (depth : Nat) : Match Typed? :=
 unconstrained do
 let u <- univ
 if (u.flags ty).unfinished then
  if let some node := site then blame "clsDefCycle" node [ty.clsName]
  return some .unk
 let ty := if ty.isClsObj && !ty.cls.orSub && !(u.tyPars ty).isEmpty && !flags.skipOverride then u.specDflt ty else ty
 let mcls := (u.info ty).metaTy.filter (·.isClsObj)
 let byMcls <- match mcls, usage.meth == .get && ty.isInsta with
  | some mcls, true =>
   if mcls.isNamed "type" || mcls.sameCls ty then pure false
   else do
    let hit <- quietly (accessMem site mcls name usage
     {flags with skipOverride := true, skipTdictEnts := true} ty depth)
    let some hit := hit | pure false
    isDescr hit.ty <||> return hit.ty.isObj && (<- univ).isProp hit.ty
  | _, _ => pure false
 let ownFlags := {flags with skipTdictEnts := true}
 let ownFlags := if ty.isInsta then
   {ownFlags with skipInstMems := true, skipClsMems := false
                  skipOverride := true, disallowGenericInstVars := true}
  else {ownFlags with noClsVarWrites := true}
 let (hit, notes) <-
  if (ty.isInsta && flags.skipInstMems) || byMcls then pure (none, .empty)
  else apart (accessMem site ty name usage ownFlags self depth)
 let (hit, notes) <- match hit, mcls with
  | none, some mcls => do
   let flags := if ty.isInsta then flags else
    {flags with skipClsMems := true, skipOverride := true, skipTyBase := true, skipInstMems := false}
   let (hit, own) <- apart (accessMem site mcls.clsInst name usage flags (if ty.isInsta then ty else ty.clsObj) depth)
   pure (hit, if hit.any (·.tyErrs) then own else notes)
  | _, _ => pure (hit, notes)
 if let some hit := hit then
  if hit.tyErrs then attach notes
  return hit
 if ty.isObjOf "type" && ty.cls.orSub && !flags.skipTyBase && !flags.skipOverride then
  let arg := ty.tyArgs.head?.getD .unk
  if arg.isAnyLike then return some {ty := arg, clsTy := some .unk}
 attach notes
 pure none

def reportUnk (rule : Rule) (tgt : Node) (ty : Ty) (site : Node) (ignoreEmpty : Bool) : Act := do
 if (<- rulesOf site).level rule == .none then return
 let name := tgt.nameVal
 let simple := ty.removeUnbound
 if simple.isUnk then flag rule "tyUnk" site [name]
 else if (<- univ).isPartlyUnk simple then
  if !ignoreEmpty || !ty.isObj || !ty.cls.isEmptyContainer then
   let note := .ofMsg (say "tyOfSym" [name, <- printTy simple {expandAlias := true}])
   flag rule "tyPartlyUnk" site [name] note

end TypeChecker.Infer
