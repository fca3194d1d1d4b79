import TypeChecker.Infer.Class

/-! Narrowing by class and by a test: what remains of a type when a value is known to be an instance of one of some
classes, or of none of them, or where an expression that mentions it was found true, or false. -/

namespace TypeChecker.Infer
variable [Evals]
def instFilter? (u : Univ) (tup : Ty?) (ty : Ty) : Ty? :=
 let ty := if !ty.isCls then ty else
  let ty := u.specUnk ty tup
  if ty.isClsOf "Callable" then Ty.unkCallable.toInsta else ty
 if ty.isClsObj then if ty.cls.includePromotions && !ty.cls.orSub then ty.dropPromotions else ty
 else if ty.isTyVar && ty.isInsta then ty
 else match ty.isFn, ty.fn.pars.map (fun (par : TyPar) => par.cat) with
  | true, [.argsList, .kwargsDict] => ty
  | _, _ => none

def instFiltersIn (u : Univ) (tup : Ty?) : Nat -> Ty -> List Ty?
 | 0, _ => []
 | fuel + 1, ty =>
  if ty.isTupObj then ty.tupArgs.flatMap (instFiltersIn u tup fuel ·.ty)
  else ty.subtys.map (instFilter? u tup)

def instFilters? (ty : Ty) := do
 return (ty.subtys.flatMap (instFiltersIn (<- univ) (<- tupCls?) (maxTyDepth + 1))).mapM id

structure InstTest where
 filters : Tys
 isTyIs := false
 holds : Bool
 allowsIntersections := false
 site : Node

variable (test : InstTest)
def InstTest.runtime (ty : Ty) := do
 if test.isTyIs then return ty
 return (<- univ).freeVarsOf (<- tyVarScopes test.site) ty

variable (site : Node)
def specFilter (filter cls : Ty) := do
 let u <- univ
 if !filter.isCls || !(u.isSpec filter || !(u.tyPars filter).isEmpty) || filter.cls.hasOwnArgs ||
   cls.sameCls filter then return filter
 let bare := filter.spec none
 let (fits, constrs) <- Match.constrained {} (expectTy bare.clsInst cls.clsInst none site.start)
 if !fits then return filter
 solve bare constrs {fillUnsolved := some {scopes := filter.scopeIds, useUnk := true, tupCls := <- tupCls?}}

def callableSubclass (cls : Ty) : Eval Ty := do
 let made <- newCls site ("<callable subtype of " ++ cls.clsName ++ ">") {} [cls] (<- infoOf cls).metaTy
 let made := made.addConds cls.conds
 addField made "__call__" clsMemFlags (.meth "__call__" (Ty.par "self" made.clsInst :: Ty.dfltPars) .unk)
 pure made.clsInst

def filterObj (mem obj fallback : Ty) : Eval Tys := do
 let u <- univ
 let cls := obj.clsObj
 let given ty := ty.addConds obj.conds
 let mut kept := []
 let mut hitSuper := false
 let mut isOpen := false
 for filter in test.filters do
  let filterCls <- firm filter
  if filterCls.isClsObj then
   let mcls := ((u.info filterCls).metaTy.filter fun mcls =>
    u.isInstaMcls cls && filterCls.depth > 0 && mcls.isClsObj)
   if let some mcls := mcls then
    let own := cls.toInst
    let overlaps <- canAssign (<- test.runtime own) mcls.clsInst
    if overlaps && !(mcls.isNamed "type" && !mcls.cls.hasOwnArgs && !own.isNamed "type") then
     if test.holds then
      kept := kept ++ [filter]
      hitSuper := true
     else if !own.isSame mcls || mcls.cls.orSub then
      kept := kept ++ [own]
      isOpen := true
     continue
   let mut runtime <- test.runtime cls
   if runtime.isClsObj && (u.flags runtime).tdict then
    let known <- prefetched
    if let (some dict, some str) := (known.dictCls, known.strCls) then runtime := dict.spec [str.clsInst, .unk]
   let flags := {allowInstForms := true, allowProtoClsSrc := true}
   let isSuper <- canAssign filter runtime flags
   let isSub <- canAssign runtime filter flags
   let isTyForm := runtime.isNamed "TypeForm"
   let isSub := isSub || isTyForm
   if isSuper then hitSuper := true
   if isTyForm || mem.isTyVar && filter.isTyVar || isSuper &&
     (!test.isTyIs && filterCls.cls.orSub || isSub && !runtime.sameCls filterCls &&
      (!filterCls.isNamed "type" || runtime.depth == 0)) then isOpen := true
   if test.holds then
    if isSuper then kept := kept ++ [given (if mem.isTyVar && mem.isSelfVar then mem else cls)]
    else if isSub then kept := kept ++ [given (<- specFilter test.site filter cls)]
    else if cls.clsInst.sameCls filterCls.clsInst then
     if !test.isTyIs && !cls.hasLit && !filterCls.hasLit then
      kept := kept ++ [if cls.isTup && (cls.tupArgs?.isNone || cls.isTupGradual) then cls else mem]
    else if test.allowsIntersections && !(u.flags cls).final && !(u.flags filterCls).final then
     let made <- createSubclass test.site cls filterCls
     let made := if mem.isTyVar && !mem.isSigVar && !mem.hasConstrs then
      made.addConds [{tyVar := mem.var, idx := 0}] else made
     kept := kept ++ [given made]
   else if mem.isAnyLike || u.derivesFromAny mem && !cls.isSame filterCls then kept := kept ++ [given mem]
  else if filter.isTyVar && filter.isInsta then
   if mem.isInst then
    let isSame := mem.isTyVar && filter.toInst.isSame mem
    if test.holds then kept := kept ++ [if isSame then mem else filter.toInst]
    else if isSame then hitSuper := true
    else
     kept := kept ++ [mem]
     isOpen := true
  else if filter.isFn then
   let isCallable <- pure mem.isInsta <||> (·.isSome) <$> clsMem? cls "__call__" {skipInstMems := true}
   if isCallable then
    if test.holds then kept := kept ++ [mem.toInsta] else hitSuper := true
   else if <- canAssign (<- test.runtime cls) filter {allowInstForms := true} then
    if test.holds then kept := kept ++ [given filter]
   else if test.allowsIntersections && test.holds then kept := kept ++ [<- callableSubclass test.site cls]
 if !test.holds && (!hitSuper || isOpen) then kept := kept ++ [fallback.toInsta]
 return kept.map (·.toInst)

def filterFn (mem fn : Ty) : Eval Tys := do
 let isProto filter := do
  if test.isTyIs || !filter.isClsObj then return false
  pure (<- callbackTy? filter.clsInst).isSome
 let runtime <- test.runtime fn
 let mut kept := []
 for filter in test.filters do
  let cls <- firm filter
  let isCallback <- isProto cls
  let wider <- canAssign runtime cls.toInst
  let obj := (<- test.runtime cls).toInst
  if test.holds then
   if isCallback then kept := kept ++ [fn.toInst]
   else if wider then kept := kept ++ [if filter.isFn then mem.toInst else filter.toInst]
   else if <- canAssign obj fn then kept := kept ++ [fn.toInst]
   else if obj.isObj && !(<- flagsOf obj).final then
    if !(<- canAssign .unkCallable obj) then kept := kept ++ [filter.toInst]
  else
   if isCallback || cls.isFn && cls.fn.flags.gradual then return []
   if !wider then if <- canAssign obj fn then return []
 return if test.holds then kept else [fn.toInst]

def narrowObjs (ty : Ty) : Eval Ty := do
 let u <- univ
 let expand := expandPromotions test.site
 let expanded <- expand (ty.map fun mem => u.unrollAlias mem)
 let change part mem _ := do
  if test.holds && part.isAnyLike then
   set true
   return none
  if part.isNoneInst then
   return if test.filters.any (fun filter => filter.isNoneCls || filter.isClsOf "NoneType") ==
    test.holds then part else none
  if test.holds && (part.isMod || part.isObjOf "ModuleType") then
   let filters <- (test.filters.filterM fun filter => do
    let cls <- firm filter
    return cls.isClsObj && (u.flags cls).proto)
   if !filters.isEmpty then return (Ty.combine filters).toInst
  let fallback := if part.conds.isEmpty then mem else part
  if part.isCls then return some (.combine (<- filterObj test mem part fallback))
  if part.isRoutine then return some (.combine (<- filterFn test mem part))
  return if test.holds then none else fallback
 let (kept, sawAny) <- .run (s := false) (mapExpanded expanded change {expand})
 return if kept.isNever && sawAny then .combine (test.filters.map (·.toInst)) else kept

def narrowByInst (isInstCheck : Bool) (ty : Ty) : Eval Ty := do
 let narrow test := ty.mapM fun mem => do
  let u <- univ
  if isInstCheck then return <- narrowObjs test mem
  if u.isMclsInst mem && !(mem.isObjOf "type") then
   return <- narrowObjs {test with filters := test.filters.map (·.toInsta)} mem
  let hit <- narrowObjs test mem.toInst
  if mem.isAnyLike && !test.holds then return hit
  if hit.isAnyLike then if let some tyCls <- tyCls? then return tyCls.clsInst.spec [hit]
  pure hit.toInsta
 let hit <- narrow test
 if hit.isNever then narrow {test with allowsIntersections := true} else pure hit

variable (name : String) (box : Ty) (holds : Bool) (ty : Ty)
def narrowByTruth := ty.mapM fun mem => do if <- canBe holds mem then return (<- without (!holds) mem) else pure none

def narrowBySingleton (val : Ty) (isVal : Ty -> Bool) (expands : Ty -> Ask) (holds : Bool) (ty : Ty) : Eval Ty := do
 let u <- univ
 let change part mem _ := do
  if part.isAnyLike then return part
  let kept := if <- expands mem then part else mem
  if isVal part then
   set true
   return if holds then kept else none
  if <- canAssign part val then
   set true
   return if holds then val.addConds part.conds else kept
  return if holds then none else kept
 let (hit, isPossible) <- .run (s := false) (mapExpanded (ty.map fun mem => u.unrollAlias mem) change)
 return if holds && isPossible then hit.map fun mem => if isVal mem then mem else none else hit

def narrowByNone : Eval Ty := do
 let none_ <- noneTy
 let expands mem := do
  if !mem.isTyVar || mem.isSelfVar then return false
  (mem.shared.constrs ++ mem.bound?.toList).anyM (canAssign · none_)
 narrowBySingleton none_ (·.isNoneInst) expands holds ty

def narrowByDots (node : Node) (holds : Bool) (ty : Ty) := do
 narrowBySingleton (<- builtinObj node "EllipsisType")
  (·.isObjIn ["EllipsisType", "ellipsis"])
  (fun mem => return !mem.isTyVar || mem.hasConstrs) holds ty

def narrowTupByNone (idx : Nat) (holds : Bool) (ty : Ty) :=
 mapExpanded ty fun part _ _ => do
  let some tup := (<- univ).specdTup? part | pure part
  if tup.isUnbTup then return part
  let some arg := tup.tupArgs[idx]? | pure part
  let ent <- firm arg.ty
  return if <- if holds then canAssign ent (<- noneTy) else pure !ent.isNoneInst then part else none

def narrowByExactCls (classes : Tys) (holds : Bool) (ty : Ty) := do
 if !holds && classes.length > 1 then return ty
 return .combine (<- classes.mapM fun cls => mapExpanded ty fun part mem _ => do
  let u <- univ
  if part.isObj then
   let isDerived := u.isDerivedFrom cls part.clsObj
   if holds then
    if isDerived then
     return if part.clsObj.sameCls cls then part.addConds cls.conds else cls.clsInst.addConds part.conds
    if !cls.cls.orSub then return none
    if !mem.isTyVar || !mem.isSelfVar then return part.addConds cls.conds
   if !cls.cls.orSub then return if isDerived && (u.flags part).final then none else part
  if part.isAnyLike then return if holds then (cls.addConds part.conds).clsInst else part
  return mem)

def narrowByCls (cls : Ty) (holds : Bool) (ty : Ty) :=
 ty.mapM fun mem => do
  let u <- univ
  let mut obj <- firm mem
  if !holds then return if obj.isClsObj && cls.sameCls obj && (u.flags cls).final then none else mem
  if obj.isObj && mem.isInst && obj.isNamed "type" then obj := obj.tyArgs.head?.elim .unk (·.toInsta)
  let given := cls.addConds obj.conds
  if obj.isAnyLike then return given
  if obj.isCls then
   if obj.isInst then return if obj.isNamed "object" then cls else none
   let isSuper := if cls.hasLit then cls.toInst.isSame mem
    else !cls.cls.orSub && (u.isDerivedFrom obj cls || cls.isNamed "dict" && (u.flags obj).tdict)
   if !cls.cls.orSub then
    if !obj.cls.orSub then return if obj.sameCls cls then cls else none
    return if isSuper || u.isDerivedFrom cls obj then given else none
   if (u.flags obj).final && !isSuper then return none
  pure mem

def narrowByLit (lit : Ty) (byIdentity holds : Bool) (ty : Ty) : Eval Ty :=
 mapExpanded ty fun part _ _ => do
  let u <- univ
  let part <- firm part
  if part.isAnyLike then return if holds then lit else part
  if part.isObj && lit.sameCls part then
   if part.hasLit then
    let isEqual := part.sameLit lit
    let isSingleton := (u.flags lit).enum || part.isSentinel || lit.isNamed "bool"
    return if (if holds then isEqual else !(isEqual && (isSingleton || !byIdentity))) then part else none
   if holds then return lit
   if let some all := (<- litsOf? part).filter (!·.isEmpty) then return some (.combine (all.filter (!·.sameLit lit)))
   return part
  if holds then
   if part.isObjOf "LiteralString" then return lit
   if byIdentity || part.isNoneInst then return if <- canAssign part lit then lit else none
  pure part

def narrowByPart (test : Ty -> Eval Bool?) : Eval Ty := do
 let (hit, isKnown) <- .run (s := true) (ty.mapM fun mem => do
  if let some stays <- test mem then return if stays then mem else none
  else
   set false
   return mem)
 return if isKnown then hit else ty

variable (key : String)
def narrowByEnt (lits : Ty) (holds : Bool) (ty : Ty) :=
 narrowByPart ty fun mem => do
  if !mem.isObj || !(<- flagsOf mem).tdict then return none
  let some ent := (<- typedEnts mem).known.lookup key | pure none
  if !ent.valTy.isLitOrUnion then return none
  some <$> lits.subtys.anyM fun lit => do
   if holds then canAssign ent.valTy lit else pure !(<- canAssign lit ent.valTy)

def narrowByTupEnt (idx : Int) (lit : Ty) (holds : Bool) (ty : Ty) :=
 narrowByPart ty fun mem => do
  if !mem.isTupObj || mem.isUnbTup || !lit.isObj || idx < 0 then return none
  let some arg := mem.tupArgs[idx.toNat]? | pure none
  if !arg.ty.isLitOrUnion then return none
  if holds then some <$> canAssign arg.ty lit else return !(<- canAssign lit arg.ty)

def declField? (name : String) : Eval Ty? := do
 let mem <- if ty.isObj then objMem? ty name else if ty.isClsObj then clsMem? ty name else pure none
 (mem.filter (·.isTyDecl)).mapM (tyOfMem ·)

def narrowByField (lit : Ty) (holds : Bool) (ty : Ty) :=
 ty.mapM fun mem => do
  let some field <- declField? mem name | pure mem
  let u <- univ
  let ret := if mem.isObj && field.isObj && u.isProp field then
   field.cls.getter.bind fun getter => if getter.meth.fn.declRet.isSome then u.effRet? getter.meth.fn else none else none
  let field := ret.getD field
  if !field.isLitOrUnion true then return mem
  return if <- if holds then canAssign field lit else pure !(<- canAssign lit field) then mem else none

def narrowByFieldNone :=
 ty.mapM fun mem => do
  let some field <- declField? mem name | pure mem
  let u <- univ
  let field <- firm field
  let isOut <- if !holds then pure field.isNoneInst else field.subtys.allM fun part => do
   let part <- firm part
   if u.isProp part || part.isAnyLike || part.isNoneInst || part.isNever then return false
   return !(<- isMaybeDescr part)
  return if isOut then none else mem

def narrowByLength (length : Nat) (isLess holds : Bool) (ty : Ty) :=
 ty.mapM fun mem => do
  let tup <- firm mem
  if !tup.isTupObj || tup.tupArgs?.isNone || tup.tupArgs.any (·.ty.isUnpTupVar) then return mem
  return if isLess && mem.isSigVar && tup.isUnbTup then mem else Tup.ofLength mem tup length isLess holds

def containedTy? :=
 if !box.isObjIn (words "list set frozenset deque tuple dict defaultdict OrderedDict") then none
 else box.tyArgs.head?.map fun first =>
  if box.isTup then (box.tupArgs?.map fun args => .combine (args.map (·.ty))).getD first else first

def narrowByElem (elem ty : Ty) :=
 mapExpanded ty fun part _ _ => some <$> elem.mapM fun elem => do
  if elem.isAnyLike then return part
  if !(<- isComparable elem part) then return none
  let isSingle (ty : Ty) := ty.isObj && (ty.isLitLike || ty.isNoneInst)
  let joined := (elem.addConds part.conds).stripTyForm
  if isSingle elem then if <- canAssign part elem then return joined
  if isSingle part then if <- canAssign elem part then return (part.addConds elem.conds).stripTyForm
  if elem.isClsObj && !elem.cls.orSub then if <- canAssign part elem then return joined
  pure part

def narrowByBox : Eval Ty := do
 if holds then
  let some elem := containedTy? box | return ty
  return <- narrowByElem (<- firm elem) ty
 if !box.isTupObj then return ty
 let out := box.tupArgs.filterMap fun arg =>
  if !arg.isUnb && (arg.ty.isNoneInst || arg.ty.isLitTy) then some arg.ty else none
 if out.isEmpty then return ty
 ty.mapM fun mem => do
  let part <- firm mem
  if part.isObj && !part.hasLit then
   if let some all := (<- litsOf? part).filter (!·.isEmpty) then
    return some (.combine (all.filter fun lit => !out.any (·.isSame lit)))
  return if out.any (·.isSame part) then none else part

def narrowByKey (holds : Bool) (ty : Ty) : Eval Ty :=
 mapExpanded ty fun part mem _ => do
  if mem.isSigVar then return mem
  if !part.isObj || !(<- flagsOf part).tdict then return part
  let ents <- typedEnts part true
  let ent := (ents.known.lookup key).orElse fun _ => ents.extra
  let isThere := ent.any fun ent => ent.isReq || ent.isProvided
  if !holds then return if isThere then none else part
  let some ent := ent | pure none
  if isThere then return part
  pure (part.withCls fun data => {data with
   narrowedEnts := (setEnt (data.narrowedEnts.getD []) key {ent with isReq := false, isProvided := true})})

def narrowByGuard (guarded : Ty) (isTyIs : Bool) (node : Node) (holds : Bool) (ty : Ty) : Eval Ty := do
 if isTyIs then
  return <- narrowByInst {filters := guarded.subtys.map (·.toInsta), isTyIs, holds, site := node} true ty
 if !holds then return ty
 return if ty.isTyVar && !ty.isSigVar && !ty.hasConstrs then
  guarded.addConds [{tyVar := ty.var, idx := 0}] else guarded

abbrev Narrowing := Ty -> Eval Typed

def Narrowing.make (change : Ty -> Eval Ty) (draft : Bool := false) : Narrowing := fun ty =>
 return {ty := <- change ty, draft}

def isSameVariable (ref name : Node) := do
 let some lhs <- lookUpName ref ref.nameVal false | pure true
 let some rhs <- lookUpName name name.nameVal false | pure true
 let world <- get
 let rec climb : Nat -> ScopeId? -> Bool
  | 0, _ | _, none => false
  | fuel + 1, some scope => scope == rhs.scope || climb fuel (world.scopes.scope scope).parent
 return climb ScopeWorld.maxDepth lhs.scope

def isRefTo (ref expr : Node) := do
 if !ref.matchesRef expr then return false
 let some name := expr.boundName? | pure true
 pure !ref.isName <||> isSameVariable ref name

def integerLit? : Int? :=
 if let some (.int val false) := ty.lit? then if ty.isObj then val else none
 else none

def lengthNarrowing? (op : Op) (rhs : Ty) (holds : Bool) : Option (Ty -> Eval Ty) :=
 ((integerLit? rhs).filter (0 <= ·)).map fun length =>
  narrowByLength (length.toNat + if op matches .lessThanOrEqual | .greaterThan then 1 else 0)
   (!op matches .equals | .notEquals) ((op matches .equals | .lessThan | .lessThanOrEqual) == holds)

def compareNarrowing? (ref test lhs rhs : Node) (op : Op) (holds : Bool) : Eval (Option Narrowing) := do
 let isIdentity := op matches .is | .isNot
 let isEquality := op matches .equals | .notEquals
 let isNone := rhs.kind matches .const .noneKw
 if isIdentity || isEquality then
  let holds := if op matches .is | .equals then holds else !holds
  let bare := if let .walrus name .. := lhs.kind then name else lhs
  if isNone then
   if <- isRefTo ref bare then return some (.make (narrowByNone holds))
   if let .idx base items comma := bare.kind then
    if let some idx := ((Node.plainSubscript? items comma).bind Node.wholeNum?).filter (0 <= ·) then
     if <- isRefTo ref base then return some (.make (narrowTupByNone idx.toNat holds))
  if let .ellipsis := rhs.kind then if <- isRefTo ref bare then return some (.make (narrowByDots test holds))
  if let .call callee [arg] _ := lhs.kind then
   if let .arg .simple _ val := arg.kind then
    if <- isRefTo ref val then
     let called := (<- tyOf callee .base).ty
     if called.isClsOf "type" then
      let res <- tyOf rhs
      let (_, classes) <- .run (s := some []) (mapExpanded (m := StateT (Option Tys) Eval) res.ty fun part _ _ => do
       modify fun hit => if part.isClsObj then hit.map (· ++ [part]) else none
       return none)
      if let some classes := classes.filter (!·.isEmpty) then
       return some (.make (narrowByExactCls classes holds) res.draft)
  if <- isRefTo ref lhs then
   let res <- tyOf rhs
   if res.ty.isLitTy then return some (.make (narrowByLit res.ty isIdentity holds) res.draft)
   if isIdentity && res.ty.isClsObj then return some (.make (narrowByCls res.ty holds) res.draft)
  if let .idx base [item] false := lhs.kind then
   if let .arg .simple _ subscript := item.kind then
    if <- isRefTo ref base then
     let key <- tyOf subscript
     if key.ty.isLitTy then
      let res <- tyOf rhs
      let isSingle := res.ty.isLitTy
      let draft := key.draft || res.draft
      match key.ty.lit? with
      | some (.text key') =>
       if key.ty.isNamed "str" && (if isIdentity then isSingle else res.ty.isLitOrUnion) then
        return some (.make (narrowByEnt key'.toString res.ty holds) draft)
      | some (.int idx false) =>
       let isFixed := match res.ty.lit? with
        | some (.enum _) | some (.bool _) => isSingle
        | _ => false
       if if isIdentity then isFixed else res.ty.isLitOrUnion then
        return some (.make (narrowByTupEnt idx res.ty holds) draft)
      | _ => pure ()
  if let .memAccess base mem := lhs.kind then
   if <- isRefTo ref base then
    let res <- tyOf rhs
    let ty := res.ty
    let isFixed := ty.lit? matches some (.enum _) | some (.bool _)
    if ty.isObj && (isFixed || isEquality && (ty.hasLit || ty.isNoneInst)) then
     return some (.make (narrowByField mem.nameVal ty holds) res.draft)
    if isNone then return some (.make (narrowByFieldNone mem.nameVal holds))
 if isEquality || op matches .lessThan | .lessThanOrEqual | .greaterThan | .greaterThanOrEqual then
  if let .call callee [arg] _ := lhs.kind then
   if <- isRefTo ref arg.argVal then
    let called <- tyOf callee .base
    if called.ty.isFn && called.ty.fn.fullName == "builtins.len" then
     let res <- tyOf rhs
     if let some narrow := lengthNarrowing? op res.ty holds then
      return some (.make narrow (called.draft || res.draft))
 if op matches .isIn | .notIn then
  let holds := (op == .isIn) == holds
  if <- isRefTo ref lhs then
   let res <- tyOf rhs
   return some (.make (narrowByBox res.ty holds) res.draft)
  if <- isRefTo ref rhs then
   let res <- tyOf lhs
   if res.ty.isObjOf "str" && res.ty.isInst then
    if let some (.text key) := res.ty.lit? then return some (.make (narrowByKey key.toString holds) res.draft)
 pure none

def callNarrowing? (ref test callee : Node) (args : Nodes) (holds : Bool) : Eval (Option Narrowing) := do
 let first :: rest := args | pure none
 if !(<- isRefTo ref first.argVal) then return none
 let called <- tyOf callee .base
 if let [second] := rest then
  if called.ty.isFn && called.ty.fn.isBuiltIn ["isinstance", "issubclass"] then
   let res <- tyOf second.argVal .instDflts
   let draft := called.draft || res.draft
   if let some filters <- instFilters? res.ty then
    return some (.make (narrowByInst {filters, holds, site := test} (called.ty.fn.isBuiltIn ["isinstance"])) draft)
   if draft then return some (.make pure true)
 if rest.isEmpty && first.kind matches .arg _ none _ && called.ty.isClsObj &&
   called.ty.isNamed "bool" then
  return some (.make (narrowByTruth holds) called.draft)
 let guards ty := ty.fn.declRet.any (·.isObjIn ["TypeGuard", "TypeIs"])
 if called.ty.isObj || called.ty.sigs.any guards then
  let res <- tyOf test
  if res.ty.isObjIn ["TypeGuard", "TypeIs"] then
   if let some guarded := res.ty.tyArgs.head? then
    return some (.make (narrowByGuard guarded (res.ty.isNamed "TypeIs") test holds) (called.draft || res.draft))
 pure none

def localDecls (name place : Node) (isUnique : Bool) : Eval (List Decl) := do
 let some scope <- scopeOf? name | pure []
 let scope := (<- get).scopes.scope scope
 if scope.kind != .fn && scope.kind != .mod then return []
 let some sym := scope.sym? name.nameVal | pure []
 let decls <- declsOf sym
 if isUnique && decls.length > 1 then return []
 let isLocal decl := decl.kind matches .variable _ | .par _
 if !decls.all isLocal then return []
 let scopes <- decls.mapM fun decl => execScope? (((decl.node.parParts?).bind (·.name)).getD decl.node)
 if scopes.any (· != scopes.headD none) then return []
 decls.filterM (isReachable place ·.node)

def narrowingIn : Nat -> Node -> Node -> Bool -> Eval (Option Narrowing)
 | 0, _, _, _ => pure none
 | fuel + 1, ref, test, holds => do
  match test.kind with
  | .walrus name _ rhs _ =>
   let some hit <- narrowingIn fuel ref rhs holds | return <- narrowingIn fuel ref name holds
   return hit
  | .binary lhs _ op rhs _ => if let some hit <- compareNarrowing? ref test lhs rhs op holds then return hit
  | .call callee args _ => if let some hit <- callNarrowing? ref test callee args holds then return hit
  | _ => pure ()
  if <- isRefTo ref test then return some (.make (narrowByTruth holds))
  if !ref.isName then return none
  match test.kind with
  | .name .. =>
   if test == ref then return none
   let [cond] <- localDecls test test true | pure none
   let some facts := cond.asVar? | pure none
   let decls <- localDecls ref test false
   if decls.isEmpty then return none
   if decls.length > 1 then
    if <- decls.anyM fun decl => do
      if !(<- isReachable test decl.node) then return false
      isReachable decl.node cond.node then return none
   let some src := facts.inferredSrc | pure none
   if !src.isExpr then return none
   if <- isInside test src then return none
   narrowingIn fuel ref src holds
  | .unary _ .not expr _ => narrowingIn fuel ref expr !holds
  | _ => pure none

def narrowing? (ref test : Node) (holds : Bool) := narrowingIn (maxTyDepth + 1) ref test holds

end TypeChecker.Infer
