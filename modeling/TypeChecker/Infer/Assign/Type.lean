import TypeChecker.Infer.Assign.Function

/-! Whether a value of one type can be assigned to a place of another type. -/

namespace TypeChecker.Infer
open Match
variable [Evals]
def magicMethIn (site : Node?) : Nat -> Ty -> String -> Ty? -> Nat -> Match Ty?
 | 0, _, _, _, _ => pure none
 | fuel + 1, ty, name, self, depth => do
  let hit <- Evals.boundMem site ty name {} {skipInstMems := true, skipOverride := true} self depth
  let some res := hit | pure none
  if res.tyErrs then return none
  if res.ty.isRoutine then return res.ty
  if res.ty.isObj then
   if maxTyDepth < depth then return none
   return <- magicMethIn site fuel res.ty "__call__" none (depth + 1)
  return if res.ty.isAnyLike then Ty.unkCallable else none

def magicMeth? (ty : Ty) (name : String) (self : Ty? := none) (site : Node? := none) (depth : Nat := 0) :=
 magicMethIn site (maxTyDepth + 2) ty name self depth

def callbackTy? (ty : Ty) (depth : Nat := 0) : Eval Ty? := do
 let u <- univ
 if !ty.isObj || !(u.flags ty).proto then return none
 let fnFields <- if let some fn := (<- prefetched).fnCls then if fn.isCls then fieldsOf fn else pure {} else pure {}
 let isCallback <- (u.mro ty).allM fun sup => do
  if !sup.isCls || !(u.flags sup).proto then return true
  (<- fieldsOf sup).ents.toList.allM fun (name, sym) => do
   if name == "__call__" || name == "__slots__" then return true
   return (<- symFlags sym).noProto || fnFields.contains name
 if !isCallback then return none
 return (<- plain (magicMeth? ty "__call__" none none depth)).map (<- univ).bindFnVars

def constrainFreeVars (dest src : Ty) : Match Unit := do
 let some constrs <- constrs | pure ()
 let constrs := ((<- univ).tyVarsOf dest).foldl (fun constrs tyVar =>
  if tyVar.isBoundVar || (constrs.main.get? tyVar).isSome then constrs else constrs.setTy tyVar src) constrs
 setConstrs constrs

def assignAliasArgs (dest src : AliasUse Ty) (flags : AssignFlags) (depth : Nat) : Fits := do
 let variances := ((<- univ).aliasAt dest.shared.id).variances.getD []
 (dest.tyArgs.getD []).zipIdx.foldlM (fun fits (destArg, idx) => do
  let flags := match variances.getD idx .covar with
   | .invar => {flags with invar := true}
   | .contra => {flags with contra := !flags.contra}
   | _ => flags
  return (<- assign destArg ((src.tyArgs.getD []).getD idx .unk) flags depth) && fits) true

def specFormVal (src : Ty) (flags : AssignFlags) :=
 if let some form := src.special? then
  if flags.allowInstForms && form.isBuiltIn ["Callable", "UnionType", "Generic"] then src
  else match src.tyForm?, form.tyForm? with
   | some tyForm, none => form.setTyForm tyForm
   | _, _ => form
 else src

variable (dest src : Ty) (flags : AssignFlags) (depth : Nat)
def assignToVar? : Match Bool? := do
 if dest.isSameVar src then return true
 if <- fitsByCond dest src depth then return true
 if dest.isInsta == src.isInsta && src.conds.any fun cond =>
   cond.tyVar.shared.constrs.isEmpty && cond.tyVar.scopedName == dest.var.scopedName then return true
 if src.isUnion && dest.isSame (src.removeMems Ty.isAnyLike) then return true
 if src.isSelfVar && src.bound?.isSome && dest.isSelfVar && dest.bound?.isSome &&
   dest.isBoundVar == src.isBoundVar && src.isInst == dest.isInst then
  if !flags.contra && (<- constrs).isSome then discard <| assignTyVar dest src flags depth
  return true
 if dest.isTupVar && src.isTupObj then
  let some [only] := src.tupArgs? | pure ()
  if dest.isSame only.ty then return true
 if flags.contra && src.isTyVar then return none
 return if !(<- assignTyVar dest src flags depth) then false else !(src.isAnyLike && flags.ovlOverlap)

def assignFromVar? : Match Bool? := do
 if flags.contra then
  if src.isBoundVar then return <- unconstrained (assign (<- firm dest) (<- firm src) flags depth)
  if <- assignTyVar src dest flags depth then return true
  if !dest.isUnion then return false
  return <- dest.subtys.foldlM (fun fits mem => return (<- assignTyVar src mem flags depth) || fits) false
 if flags.invar then
  if dest.isAnyLike then return true
  if src.isSigVar && dest.isFn && dest.fn.flags.gradual && dest.fn.pars.length <= 2 then return true
  if src.isUnpTupVar && dest.isObj && dest.isUnpCls then
   let some [only] := dest.tupArgs? | pure ()
   if only.isUnb && only.ty.isAnyLike then return true
  if !dest.isUnion then
   noteClash src dest
   return false
 pure none

def assignTyObj? (dest src hit : Ty) (flags : AssignFlags) (depth : Nat) : Match Bool? := do
 if !hit.isObjOf "type" then return none
 let arg := hit.tyArgs.headD .unk
 if arg.isAnyLike then return if (<- univ).actsAsInsta dest then true else none
 if !arg.isObj && !arg.isTyVar then return none
 if <- below (assign dest arg.toInsta flags depth) then return true
 noteClash src dest
 pure false

def assignClsObj (dest src hit : Ty) (flags : AssignFlags) (depth : Nat) : Fits := do
 let u <- univ
 if (u.flags dest).proto && !flags.allowProtoClsSrc && (u.flags hit).proto && src.isClsObj && !src.cls.orSub then
  note "protoSrcIsNotReal" [printTy src.toInst, printTy dest]
  return false
 if dest.isNamed "type" && 0 < src.depth then return true
 if <- isSpecFormCls hit flags then
  let form := dest.special?.getD dest
  if <- isSpecFormCls form flags then return <- assign form hit flags depth
 else if <- assignCls dest hit flags depth false then return true
 noteClash src dest
 pure false

def assignToTyObj? : Match Bool? := do
 if !dest.isNamed "type" then return none
 if src.isClsObj && src.depth == 0 then if <- isSpecFormCls src flags then return false
 if src.isAnyLike && flags.ovlOverlap then return false
 if let some arg := dest.tyArgs.head? then
  if arg.isInst && src.isInsta then return <- assign arg src.toInst flags depth
 return if src.isInsta then !(src.hasLit) else none

def assignObj (dest src hit : Ty) (flags : AssignFlags) (depth : Nat) : Fits := do
 match !dest.cls.isUnp && hit.cls.isUnp, hit.tupArgs? with
 | true, some args => return <- assign dest (.tupArgsUnion args) flags depth
 | _, _ => pure ()
 if dest.hasLit && dest.sameCls hit && !(hit.hasLit && hit.sameLit dest) then
  note "litUnfit" [printTy src, printTy dest]
  return false
 let isLitStr := hit.isNamed "LiteralString"
 if dest.isNamed "LiteralString" then
  if hit.isNamed "str" && hit.hasLit then return !flags.invar
  if isLitStr then return true
 let hit <- if let some str := (<- prefetched).strCls then pure (if !dest.isNamed "LiteralString" && isLitStr &&
    str.isClsObj && !flags.invar then str.clsInst else hit)
  else pure hit
 assignCls dest.clsObj hit.clsObj flags depth true

def assignToObj? : Match Bool? := do
 if let some fits <- assignToTyObj? dest src flags depth then return fits
 let hit <- firm src
 if dest.isNamed "TypeForm" then
  let arg? :=
   if hit.isObjOf "type" then some hit
   else if hit.isClsObj then some hit.toInst
   else none
  let some arg := arg? | pure ()
  return <- assign (dest.tyArgs.headD .unk) arg flags depth
 let u <- univ
 let known <- prefetched
 if hit.isCls && hit.isInst then return <- assignObj dest src hit flags depth
 if hit.isRoutine then
  if let some callback <- callbackTy? dest depth then return <- assign callback hit flags depth
  let some fn := if hit.isMeth then known.methCls else known.fnCls | return none
  return <- assign dest fn.toInst flags depth
 if hit.isMod then
  if dest.isNamed "ModuleType" then return true
  if (u.flags dest).proto then return <- assignToProto dest.clsObj hit flags depth
  return none
 if hit.isClsObj then
  if let some callback <- callbackTy? dest depth then return <- assign callback hit flags depth
  if (u.flags dest).proto then return <- assignClsToProto dest.clsObj hit flags depth
  if let some mcls := (u.info hit).metaTy then
   if !mcls.isAnyLike then if <- quietly (assignCls dest.clsObj mcls flags depth true) then return true
  return none
 if hit.isAnyLike && hit.special?.isNone then return !flags.ovlOverlap
 if hit.isUnion then return <- assign dest hit flags depth
 pure none

def assignOvls (dest : Ty) (ovls : Tys) (flags : AssignFlags) (depth : Nat) : Fits := do
 if flags.argFirstPass then return true
 let outer <- constrs
 let (count, sets) <- ovls.foldlM (fun (count, sets) ovl => do
  let (fits, made) <- withConstrs (outer.map (·.forSig ovl.scopeId?.toList)) <| quietly (assign dest ovl flags depth)
  return if fits then (count + 1, sets ++ made.elim [] (·.sets)) else (count, sets))
  (0, ([] : List ConstrSet))
 if count == 0 then
  note "noOvldAssignable" [printTy dest]
  return false
 setConstrs (outer.map (·.withSets sets))
 pure true

def assignToFn? : Match Bool? := do
 let hit <- firm src
 let hit <- if hit.isObj then do pure ((<- quietly (magicMeth? hit "__call__" none none depth)).getD hit) else pure hit
 let hit <-
  if hit.isClsObj && !hit.hasLit then do
   pure ((<- Evals.ctorFn hit (if src.isTyVar then src.toInst else none) depth).getD hit)
  else pure hit
 if hit.isUnion then return <- assign dest hit flags depth
 if hit.isAnyLike then return !flags.ovlOverlap
 if hit.isOvld then return <- assignOvls dest hit.ovls flags depth
 if hit.isFn then
  let outer <- constrs
  let (fits, made) <- withConstrs (outer.getD {}) <| below (assignFn dest hit flags depth)
  if outer.isSome then setConstrs made
  return if fits then true else none
 pure none

def assignToOvls : Fits := do
 if src.isOvld && src.ovls.length == dest.ovls.length then
  if <- quietly ((dest.ovls.zip src.ovls).allM fun (destOvl, srcOvl) =>
    assign destOvl srcOvl flags depth) then return true
 below do
  let fits <- dest.ovls.allM fun ovl => below (assign ovl src flags depth)
  if !fits then
   let some first := dest.ovls.head? | pure ()
   note "ovldNotAssignable" [first.fn.name]
  pure fits

def assignPlain : Fits := do
 if dest.isClsObj then
  let hit <- firm src
  if hit.isClsObj then return <- assignClsObj dest src hit flags depth
 if dest.isObj then
  let some fits <- assignToObj? dest src flags depth | pure ()
  return fits
 if dest.isFn then
  let some fits <- assignToFn? dest src flags depth | pure ()
  return fits
 if dest.isOvld then return <- assignToOvls dest src flags depth
 if dest.isNamed "object" && !flags.invar && ((dest.isClsObj && src.isInsta) || dest.isObj) then return true
 if src.isNoneInst && dest.isObj && (<- flagsOf dest).proto then
  let some none_ := (<- prefetched).noneTyCls | pure ()
  if none_.isClsObj then return <- assignClsToProto dest.clsObj none_.clsInst flags depth
 if dest.isNoneInst then
  note "putToNone"
  return false
 noteClash src dest
 pure false

def assignExpanded : Fits := do
 if dest.isUnbound || src.isUnbound then return true
 if dest.isTyVar then
  let some fits <- assignToVar? dest src flags depth | pure ()
  return fits
 if src.isTyVar then
  let some fits <- assignFromVar? dest src flags depth | pure ()
  return fits
 if dest.isAnyLike then return true
 if src.isAnyLike && src.special?.isNone then
  constrainFreeVars dest (if src.isEllipsis then .any else src)
  if !flags.ovlOverlap then return true
 if src.isNever then
  if flags.invar then
   if dest.isNever then return true
   noteClash src dest
   return false
  constrainFreeVars dest .unk
  return true
 if dest.isUnion then
  if src.isUnion then return <- assignFromUnion dest src flags depth
  if <- onCopy (quietly (assignToUnion dest src flags depth)) then return true
 let hit <- firm src
 if hit.isUnion then return <- assignFromUnion dest hit flags depth
 if dest.isUnion then return <- assignToUnion dest src flags depth
 let some fits <- assignTyObj? dest src hit flags depth | assignPlain dest src flags depth
 pure fits

def maxAliasDepth := 10

def assignTy : Fits := do
 let u <- univ
 if dest.isIdentical src && !u.needsSpec dest then return true
 let src := specFormVal src flags
 let src <-
  if src.isClsObj && (u.flags src).newTy && !src.cls.orSub then
   let some fn := (<- prefetched).fnCls | pure src
   pure (if fn.isClsObj then fn.clsInst else src)
  else pure src
 if maxTyDepth < depth then return true
 let depth := depth + 1
 let areAliases := dest.isTyVar && src.isTyVar && dest.shared.recAlias.isSome && src.shared.recAlias.isSome
 if areAliases then
  match dest.aliasUse?, src.aliasUse? with
  | some destUse, some srcUse =>
   if destUse.tyArgs.isSome && srcUse.tyArgs.isSome &&
     (dest.shared.recAlias.map (·.scopeId)) == (src.shared.recAlias.map (·.scopeId)) then
    return <- assignAliasArgs destUse srcUse flags depth
  | _, _ => pure ()
  if flags.skipRecursiveCheck then return true
 let flags := if areAliases then {flags with skipRecursiveCheck := true} else flags
 if dest.isInsta && src.isInsta && (0 < dest.depth || 0 < src.depth) then
  return <- assign dest.toInst src.toInst flags depth
 let expandedDest := u.unrollAlias dest
 let expandedSrc := u.unrollAlias src
 let isRecursive ty expanded := ty.isTyVar && ty.shared.recAlias.isSome && expanded.isUnion
 if (isRecursive dest expandedDest || isRecursive src expandedSrc) && maxAliasDepth < depth then
  if src.isObjOf "str" && expandedDest.isUnion then
   return expandedDest.subtys.any (·.isObjIn ["object", "str"])
  return true
 assignExpanded expandedDest expandedSrc flags depth

/-! Comparisons by the operators `==` and `is`. -/

def isTyObj (ty : Ty) := ty.isClsObj || (ty.isObjOf "type")

def fitsEitherWay (lhs rhs : Ty) := do
 let lhs := lhs.spec none
 let rhs := rhs.spec none
 if <- canAssign lhs rhs then return true
 canAssign rhs lhs

def boolIntComparable (bool int : Ty) :=
 match int.lit?, bool.lit? with
 | some (.int val _), flag =>
  if val != 0 && val != 1 then false
  else if let some (.bool flag) := flag then flag == (val == 1) else true
 | _, _ => true

def isComparable (lhs rhs : Ty) (byIdentity : Bool := false) : Ask := do
 if lhs.isAnyLike || rhs.isAnyLike then return true
 if lhs.isNever || rhs.isNever then return false
 if lhs.isMod || rhs.isMod then return lhs.isSame rhs {ignoreConds := true}
 if lhs.isRoutine || rhs.isRoutine then return true
 let u <- univ
 if isTyObj lhs then
  if isTyObj rhs then if <- fitsEitherWay lhs rhs then return true
  let some mcls := (u.info lhs).metaTy | return false
  if !mcls.isCls then return false
  return (<- clsMem? mcls "__eq__" {skipObjBase := true}).isSome
 if !lhs.isObj then return true
 if rhs.isCls then
  if <- fitsEitherWay lhs rhs then return true
  if byIdentity && rhs.isNoneInst then
   if lhs.isNoneInst then return true
   return <- canAssign lhs rhs
  if lhs.isBuiltIn [] && rhs.isBuiltIn [] && rhs.isInst then
   if lhs.isNamed "bool" && rhs.isNamed "int" then return boolIntComparable lhs rhs
   return if rhs.isNamed "bool" && lhs.isNamed "int" then boolIntComparable rhs lhs else false
 let some mem <- clsMem? lhs.clsObj "__eq__" {skipObjBase := true} | pure false
 pure !((<- isDataCls lhs) && (<- synthTy? mem.sym).isSome)

/-! Assignments. -/

def narrowAssigned (declared : Ty) (assigned : Typed) : Eval Typed := do
 let narrowed <- assigned.ty.mapM fun mem => do
  if mem.isCls && mem.isLitTy && declared.isUnion && declared.subtys.any (·.isSame mem) then return mem
  let res <- declared.mapM fun goal => do
   if !(<- canAssign goal mem) then return none
   if mem.isUnk then return mem
   if !(<- canAssign mem goal) then return mem
   if mem.isCls && mem.cls.narrowedEnts.isSome && mem.isSame goal {ignoreNarrowedEnts := true} then return mem
   return if goal.isObj && (<- flagsOf goal).proto && mem.isRoutine then mem else goal
  return if res.isNever then mem else res
 let ty := if !narrowed.isDraftUnk && narrowed.isUnk then .combine [narrowed, declared] else narrowed
 pure {ty, draft := assigned.draft}

def asTyForm (want ty : Ty) : Eval Ty := do
 let some form := ty.tyForm? | pure ty
 let hit <- want.subtys.findM? fun mem => do
  if !mem.isObjOf "TypeForm" then return false
  canAssign (mem.tyArgs.headD .unk) form
 return if let some mem := hit then mem.spec [form] else ty

end TypeChecker.Infer
