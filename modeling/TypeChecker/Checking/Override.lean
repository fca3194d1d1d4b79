import TypeChecker.Checking.Expression

/-! Members that replace those of a base class: where the base is expected, the subclass has to do. -/

namespace TypeChecker.Check
open Infer Match Name
variable [Evals] (node : Node?) (parts : FnParts Node) (ty : Ty)
def def? := ty.fn.decl.mapM fun id => return (<- declAt id).node
def defName? : Eval Node? := return ((<- def? ty).bind (·.fnParts?)).map (·.name)
def boundBy := if let some node := node then boundAt node ty else pure ty
def outside? := return (<- node.mapM parent?).join

def checkOvlKinds : Act := do
 let some first := ty.ovls.head? | return
 let all := ty.ovls ++ (ty.impl?.filter (·.isFn)).toList
 let place := (<- defName? first).getD parts.name
 let name := parts.name.nameVal
 if all.any (·.fn.flags.staticMeth) && !all.all (·.fn.flags.staticMeth) then
  flag .mixedOvl "ovldStaticMethMixed" place [name]
 if all.any (·.fn.flags.clsMeth) && !all.all (·.fn.flags.clsMeth) then
  flag .mixedOvl "ovldClsMethMixed" place [name]

def overlaps (ty prev : Ty) (isPartial : Bool) := do
 if ty.fn.isInstMeth && ty.fn.name == "__get__" then return false
 canAssign (<- boundBy (<- def? ty) ty) (<- boundBy (<- outside? (<- def? prev)) prev)
  {skipRetCheck := true, ovlOverlap := true, noExtraKwargs := true, partialOverlap := isPartial}

def checkOverlap (prev : Tys) : Act := do
 if !(<- isReported .overlappingOvl parts.name) then return
 let name := parts.name.nameVal
 let count := (prev.length + 1).repr
 for (other, idx) in prev.zipIdx do
  if <- overlaps ty other false then
   flag .overlappingOvl "overlapOvld" parts.name [count, name, (idx + 1).repr]
   break
 for (other, idx) in prev.zipIdx do
  if <- overlaps other ty true then
   let u <- univ
   if let (some before, some ret) := (u.effRet? other.fn, u.effRet? ty.fn) then
    if !(<- canAssign ret before) then
     flag .overlappingOvl "ovldRetTyBad" ((<- defName? other).getD parts.name) [(idx + 1).repr, name, count]
     break

def implements (ovl impl : Ty) : Fits := do
 let impl <- boundBy (<- outside? (<- def? impl)) impl
 let ovl <- boundBy (<- def? ovl) ovl
 let fits <- assign ovl impl {skipRetCheck := true, contra := true, skipSelfClsTyCheck := true, noExtraKwargs := true}
 let constrs := (<- constrs).getD {}
 let goal <- solve (<- effRet ovl) constrs
 let given <- solve (<- effRet impl) constrs
 if goal.isNever then return fits
 let (returns, notes) <- apart (assign given goal)
 if returns then return fits
 let (goal, given) := (<- printTy goal, <- printTy given)
 attach ((Adden.empty.addChild notes).say "fnRetTyBad" [goal, given])
 pure false

def mayLackImpl (node : Node) (ty : Ty) : Ask := do
 let some owner := ((<- tree).enclClsOrFn? node).filter (·.isCls) | pure false
 let some made <- Evals.tyOfCls owner | pure false
 let flags <- flagsOf made.clsTy
 return flags.proto || flags.hasAbs && ty.isOvld && ty.ovls.all (·.fn.flags.absMeth)

def checkOvlSet (name : String) (sym : SymId) : Act := do
 let some primary := (<- typedDecls sym).head? | return
 let some parts := primary.node.fnParts? | return
 let ty <- effTy sym
 let ovls := if ty.isOvld then ty.ovls else if ty.isFn && ty.fn.flags.ovld then [ty] else []
 if (if ty.isFn then some ty else ty.ovls.head?).any (·.fn.name == "") then return
 if ovls.length == 1 then flag .mixedOvl "singleOvld" parts.name [name]
 if (<- inStub primary.node) || ovls.isEmpty then return
 let impl := if ty.isOvld then ty.impl? else none
 let some impl := impl
  | if <- mayLackImpl primary.node ty then return
    if <- ovls.anyM fun ovl => return (<- def? ovl) == primary.node then
     flag .noOvlImpl "ovldWithoutImpl" parts.name [parts.name.nameVal]
    return
 if !(<- isReported .mixedOvl parts.name) || !impl.isFn then return
 for (ovl, idx) in ovls.zipIdx do
  let (fits, _, notes) <- constrainedExplained (some {}) (implements ovl impl)
  if !fits then
   if let some place <- defName? impl then flag .mixedOvl "ovldImplBad" place [(idx + 1).repr] notes

/-! ### Methods -/

structure MethPair where
 (base sub : Ty)
 (baseList subList : ParList)
 enforceNames : Bool

namespace MethPair

def nameOf (par : VirtualPar) := if par.name.isEmpty then "*" else par.name

def fail (name : String) (vals : List (Match String) := []) : Fits := do
 note name vals
 pure false

variable (pair : MethPair)
def keepsKind : Fits := do
 let flags := pair.base.fn.flags
 if flags.staticMeth then
  pure pair.sub.fn.flags.staticMeth <||> fail "overNotStaticMeth"
 else if flags.clsMeth then
  pure pair.sub.fn.flags.clsMeth <||> fail "overNotClsMeth"
 else if pair.base.fn.isInstMeth && !pair.sub.fn.isInstMeth then fail "overNotInstMeth"
 else pure true

def keepsCount : Fits := do
 let (base, sub) := (pair.baseList, pair.subList)
 let mut fits := true
 let mut differs := false
 if sub.posCount < base.posCount then
  match sub.args? with
  | none => differs := true
  | some args =>
   for idx in [sub.posCount:base.posCount] do if !(<- below (assign args.ty (base.get idx).ty)) then fits := false
 else
  for idx in [base.posCount:sub.posCount] do
   let par := sub.get idx
   if par.cat == .simple && !par.name.isEmpty && par.dfltTy.isNone then differs := true
 if differs then fits <- fail "overPosParNum" [base.pars.size.repr, sub.pars.size.repr]
 pure fits

def keepsPos (idx : Nat) : Fits := do
 let base := pair.baseList.get idx
 let sub := pair.subList.get idx
 let place := (idx + 1).repr
 let isNamed := idx >= pair.baseList.posOnlyCount
 if isNamed && !isPrivateOrProtected base.name && base.kind != .byPos && base.cat == .simple &&
   pair.enforceNames && base.name? != sub.name? then
  if sub.cat != .simple || base.par.isNameSynth then return true
  if sub.kind == .byPos then return <- fail "overParNamePosOnly" [place, nameOf base]
  return <- fail "overParName" [place, nameOf base, nameOf sub]
 if idx < pair.subList.posOnlyCount && isNamed then
  if base.par.isNameSynth || base.kind.isByPos then return true
  return <- fail "overParNamePosOnly" [place, nameOf base]
 let isMade ty := ty.isTyVar && ty.shared.isSynth
 let mut fits := true
 if !isMade base.ty && !isMade sub.ty then
  let accepts <- pure (base.cat == sub.cat) <&&> below (assign sub.ty base.ty)
  if !accepts then fits <- fail "overParTy" [place, printTy base.ty, printTy sub.ty]
 if base.dfltTy.isSome && sub.dfltTy.isNone then fits <- fail "overParNoDflt" [place]
 pure fits

def keepsPositions : Fits := do
 let count := min pair.baseList.posCount pair.subList.posCount
 let flags := pair.sub.fn.flags
 let bindsFirst := pair.sub.fn.isInstMeth || flags.clsMeth || flags.ctorMeth
 let mut fits := true
 for idx in [(if bindsFirst then 1 else 0):count] do if !(<- keepsPos pair idx) then fits := false
 if pair.enforceNames && pair.subList.kwargsIdx.isNone then
  for idx in [count:pair.baseList.posCount] do
   let base := pair.baseList.get idx
   if base.kind == .standard && base.cat == .simple then
    fits <- fail "overParNamePosOnly" [(idx + 1).repr, nameOf base]
 pure fits

def keepsMany : Fits := do
 let some base := pair.baseList.args? | pure true
 let some sub := pair.subList.args? | fail "overParNameGone" [base.name?.getD "?"]
 if <- below (assign sub.ty base.ty) then return true
 fail "overParKwTy" [sub.name?.getD "?", printTy base.ty, printTy sub.ty]

def keepsKw (kws : List VirtualPar) (base : VirtualPar) : Fits := do
 let name := base.name?.getD "?"
 let sub := kws.find? (·.name? == base.name?)
 let some tgt := (sub.or pair.subList.kwargs?).map (·.ty) | fail "overParNameGone" [name]
 let mut fits := true
 if !(<- below (assign tgt base.ty)) then
  fits <- fail "overParKwTy" [name, printTy base.ty, printTy tgt]
 if base.dfltTy.isSome && sub.any (·.dfltTy.isNone) then fits <- fail "overParKwNoDflt" [name]
 pure fits

def keepsKws : Fits := do
 let kws list := list.pars.toList.filter fun par => par.kind == .kw && par.cat == .simple
 let (base, sub) := (kws pair.baseList, kws pair.subList)
 let mut fits := true
 for par in base do if !(<- keepsKw pair sub par) then fits := false
 if pair.baseList.kwargsIdx.isNone then
  for par in sub do
   if !base.any (·.name? == par.name?) && par.dfltTy.isNone then
    fits <- fail "overParNameExtra" [par.name?.getD "?"]
 if let some kwargs := pair.baseList.kwargs? then
  if pair.subList.kwargsIdx.isNone then fits <- fail "kwargsParGone" [kwargs.name]
 pure fits

def keepsSpec : Fits := do
 if pair.baseList.parSpec.isNone || pair.subList.parSpec.isSome then return true
 let isOpen par := par.any (·.ty.isAnyLike)
 if isOpen pair.subList.args? && isOpen pair.subList.kwargs? then return true
 fail "sigGoneInOver"

def keepsRet : Fits := do
 let base <- effRet pair.base
 let sub <- effRet pair.sub
 let sub <- solve sub ((<- constrs).getD {})
 if <- below (assign base sub) then return true
 fail "overRetTy" [printTy base, printTy sub]

end MethPair

def overridesSig (base sub : Ty) (enforceNames : Bool) : Fits := do
 let (fits, _) <- withConstrs (some {}) do
  let u <- univ
  let pair : MethPair := {base, sub, baseList := u.parList base, subList := u.parList sub, enforceNames}
  let steps := if base.fn.flags.gradual || sub.fn.flags.gradual then []
   else [pair.keepsKind, pair.keepsCount, pair.keepsPositions, pair.keepsMany, pair.keepsKws]
  (steps ++ [pair.keepsSpec, pair.keepsRet]).foldlM (fun fits step => return (<- step) && fits) true
 pure fits

def appliesTo (base : Ty) (child : Ty?) : Ask := do
 let some child := child | pure true
 let data := base.fn
 if !data.isInstMeth && !data.flags.clsMeth && !data.flags.ctorMeth then return true
 let some first := ((<- univ).parList base).pars[0]? | pure true
 if first.cat != .simple || !first.par.isTyDecl then return true
 canAssign first.ty (if data.isInstMeth then child.clsInst else child)

def matchingOvl (bases : Tys) (child : Ty?) (enforceNames : Bool) (sub : Ty) (prev : Nat?) : Eval Nat? := do
 let mut possible := none
 for (base, idx) in bases.zipIdx do
  if !(<- appliesTo base child) then continue
  if <- plain (overridesSig base sub enforceNames) then
   if prev.any (idx <= ·) && possible.isNone then possible := some idx else return idx
 pure possible

def overridesOvls (bases subs : Tys) (child : Ty?) (enforceNames : Bool) : Fits := do
 let mut prev := none
 for sub in subs do
  let some idx <- matchingOvl bases child enforceNames sub prev | break
  if prev.any (idx < ·) then return <- MethPair.fail "overOvldOrder"
  prev := idx
 let rest := bases.drop (prev.elim 0 (· + 1))
 if rest.isEmpty then return true
 not <$> rest.anyM (appliesTo · child) <||> MethPair.fail "overOvldNoMatch"

def overridesMeth (base sub : Ty) (child : Ty?) (enforceNames : Bool := true) : Fits := do
 if !base.isRoutine then return <- MethPair.fail "overTy" [printTy base]
 match base.isFn, sub.isFn with
 | true, true => overridesSig base sub enforceNames
 | true, false =>
  let all := sub.ovls ++ (sub.impl?.filter (·.isFn)).toList
  for pick in all do if <- quietly (overridesSig base pick enforceNames) then return true
  MethPair.fail "overNoOvldMatches"
 | false, true =>
  for ovl in base.ovls do
   if <- appliesTo ovl child then if !(<- below (overridesSig ovl sub enforceNames)) then return false
  pure true
 | false, false => overridesOvls base.ovls sub.ovls child enforceNames

/-! ### Properties -/

def accessors : List (String × (ClsData -> Option (PropMeth Ty))) :=
 [("fget", (·.getter)), ("fset", (·.setter)), ("fdel", (·.deleter))]

def checkProp (baseCls childCls base sub : Ty) (name : String) (missing : Node?) (place : Decl -> Eval Node?) : Act := do
 let u <- univ
 let tyCls <- tyCls?
 let report notes node := flag .methOverride "propHidden" node [name, baseCls.clsName] notes
 for (accessorName, accessor) in accessors do
  let some baseMeth := base.cls?.bind accessor | continue
  let baseMeth := u.partlySpec baseMeth.meth baseCls tyCls
  if !baseMeth.isFn then continue
  match sub.cls?.bind accessor with
  | none => if let some node := missing then report (.ofMsg (say "propMethGone" [accessorName])) node
  | some subMeth =>
   let subMeth := u.partlySpec subMeth.meth childCls tyCls
   if !subMeth.isFn then continue
   let (fits, notes) <- explained (overridesMeth baseMeth subMeth childCls)
   if fits then continue
   let notes := (Adden.empty.addChild notes).say "propMethBad" [accessorName]
   let some id := subMeth.fn.decl | continue
   let decl <- declAt id
   if decl.node.isFn then if let some node <- place decl then report notes node

/-! ### Members -/

def isExemptMeth (name : String) := ["__init__", "__new__", "__init_subclass__", "__post_init__"].contains name

variable (sym : SymId)
def lastNameNode? : Eval Node? := return (<- declsOf sym).getLast?.map fun decl => decl.nameNode?.getD decl.node

variable (ty : Ty) (name : String)
def tdictEnt? : Eval (Option (TdictEnt Ty)) := do
 let some ents := (<- infoOf ty).typedEnts | pure none
 let some ent := ents.known.lookup name <|> ents.extra | pure (<- extraEnt ty)
 pure ent

def isFrozenField : Ask := do
 let info <- infoOf ty
 return info.dataClsBehav.any (·.frozen) && (info.dataClsEnts.getD []).any (·.name == name)

def isFinalMeth : Ask := do
 (<- declsOf sym).anyM fun decl => do
  if !decl.node.isFn then return false
  return (<- Evals.tyOfFn decl.node).any (·.fnTy.fn.flags.final)

def entProblem? (base sub : TdictEnt Ty) (name : String) : String? × String? :=
 let keeps := if base.isReadOnly then sub.isReq || !base.isReq else sub.isReq == base.isReq
 (if keeps then none else say (if sub.isReq then "tdFieldReqAgain" else "tdFieldOptAgain") [name],
  if !base.isReadOnly && sub.isReadOnly then say "tdFieldReadOnlyAgain" [name] else none)

variable (mem : ClsMem)
def checkVarOverride (baseTy subTy : Ty) (sym : SymId) (child : Ty) (name : String) : Act := do
 let decls <- declsOf sym
 let some first := decls.head? | return
 let some place <- lastNameNode? sym | return
 if !(<- isReported .varOverride place) then return
 let base := mem.clsTy
 let flags <- symFlags sym
 let baseEnt <- if flags.noProto then pure none else tdictEnt? base name
 let ent <- if flags.noProto then pure none else tdictEnt? child name
 let isInvar := first.asVar?.any (!·.isFinal) && !(<- isFrozenField base name) && !baseEnt.any (·.isReadOnly)
 let (fits, notes) <- explained (assign baseTy subTy {invar := isInvar})
 if !fits then
  let notes <- if isInvar then do
    let why := say "overInvBad" [<- printTy subTy, <- printTy baseTy]
    pure ((Adden.ofMsg (say "overIsInv")).addChild (.ofMsg why))
   else pure notes
  flag .varOverride "symHidden" place [name, base.clsName] notes
 else if let (some baseEnt, some ent) := (baseEnt, ent) then
  let (required, readOnly) := entProblem? baseEnt ent name
  for msg in required.toList ++ readOnly.toList do report .general msg place
 if !(<- declsOf mem.sym).any isFinalDecl && decls.any isFinalDecl then
  flag .varOverride "varFinalOver" place [name, base.clsName]
 let isBaseClsVar := (<- symFlags mem.sym).clsVar
 let isClsVar := flags.clsVar || isBaseClsVar && (<- typedDecls sym).all (·.node.isCls)
 if isBaseClsVar != isClsVar && !((<- flagsOf child).tdict && !isClsVar) then
  let msg := if flags.clsVar then "clsVarHidesInstVar" else "instVarHidesClsVar"
  flag .varOverride msg place [name, base.clsName]

def checkOverride (sym : SymId) (ty child : Ty) (name : String) : Act := do
 let base := mem.clsTy
 if !base.isClsObj || name == "_" then return
 if (<- symFlags mem.sym).noOverrideCheck || (<- symFlags sym).noOverrideCheck then return
 if !(<- hasTypedDecls mem.sym) then return
 let baseTy <- effTy mem.sym
 let u <- univ
 let tyCls <- tyCls?
 let childSelf := (u.selfSpec child false true).clsInst
 let baseSelf := if (u.flags base).proto then childSelf else (u.selfSpec base false true).clsInst
 let scopes := child.cls.ref.scopeId.toList
 let bind ty := if scopes.isEmpty then ty else u.bindVarsOf scopes ty
 let baseTy := bind (u.partlySpec baseTy base tyCls baseSelf)
 let subTy := bind (u.partlySpec ty child tyCls childSelf)
 if !isPrivate name && (<- isFinalMeth mem.sym) then
  if let some last := (<- lastTypedDecl? sym).filter (·.node.isFn) then
   flag .methOverride "finalMethOver" (last.nameNode?.getD last.node) [name, base.clsName]
 if baseTy.isRoutine then
  if isExemptMeth name || isPrivate name || (u.flags child).tdict then return
  if subTy.isRoutine then
   let (fits, notes) <- explained (overridesMeth baseTy subTy child (!isDunder name))
   if fits then return
   let some last <- lastTypedDecl? sym | return
   flag .methOverride "badMethOver" (last.nameNode?.getD last.node) [name, base.clsName] notes
  else if !subTy.isAnyLike && !base.isBuiltIn ["_TypedDict", "TypedDictFallback"] then
   if let some place <- lastNameNode? sym then
    flag .methOverride "methHidden" place [name, base.clsName, <- printTy subTy]
 else if baseTy.isCls && u.isProp baseTy then
  let last <- lastNameNode? sym
  if !(subTy.isCls && u.isProp subTy) then
   if let some place := last then
    if (<- symFlags sym).clsMem then flag .methOverride "propHidden" place [name, base.clsName]
  else
   checkProp base child baseTy subTy name last fun decl => do
    if let some parts := (<- (u.info child).decl.mapM declAt).bind (·.node.clsParts?) then
     if <- isInside decl.node parts.suite then return decl.nameNode?.getD decl.node
    pure last
 else checkVarOverride mem baseTy subTy sym child name

def memFn? (takesOvl : Bool) : Eval Ty? := do
 if ty.isFn then return ty
 if ty.isOvld then
  let some impl := ty.impl? | return if takesOvl then ty.ovls.head? else none
  return if impl.isFn then impl else none
 return if ty.isObj && (<- univ).isProp ty then ty.cls.getter.map (·.meth) else none

def checkOverrideMark (replaced : Option ClsMem) : Act := do
 let some fn <- memFn? ty replaced.isNone | return
 let some id := fn.fn.decl | return
 if fn.fn.flags.overridden == replaced.isSome || !(<- symAt sym).decls.contains id then return
 let some name := (<- declAt id).nameNode? | return
 let some mem := replaced | blame "hiddenMethNotFound" name [name.nameVal]
 if isExemptMeth fn.fn.name || mem.clsTy.isAnyLike || !(<- isReported .autoOverride name) then return
 flag .autoOverride "overDecoGone" name [name.nameVal, <- printTy mem.clsTy.toInst]

def checkOverrides : Act := do
 for (name, sym) in (<- fieldsOf ty).ents do
  if isPrivate name then continue
  let own <- effTy sym
  if own.isAnyLike then continue
  let isTyped <- hasTypedDecls sym
  let mut first := none
  for base in (<- infoOf ty).bases do
   if !base.isCls then continue
   let some base := ((<- univ).mro ty).find? fun other => other.isCls && other.isOfSameCls base | continue
   let some mem <- clsMem? base name | continue
   first := first <|> some mem
   checkOverride mem sym (if isTyped then own else .any) ty name
  checkOverrideMark sym own first

/-! ### Several bases -/

def checkMixedMem (base other : ClsMem) (child : Ty) (name : String) (site : Node) : Act := do
 if !base.clsTy.isCls || !other.clsTy.isCls || name == "_" then return
 let tyCls <- tyCls?
 let specd mem := do
  let ty <- effTy mem.sym
  return (<- univ).partlySpec ty mem.clsTy tyCls
 let baseTy <- specd base
 let subTy <- specd other
 let own <- ((<- fieldsOf child).get? name).mapM effTy
 let u <- univ
 let reportVar := flag .varOverride "baseVarTyBad" site [child.clsName, name]
 if baseTy.isRoutine then
  if !subTy.isRoutine then return
  let (fits, notes) <- explained (overridesMeth baseTy subTy none)
  if !fits && (<- lastTypedDecl? other.sym).any (·.node.isFn) then
   flag .methOverride "baseMethTyBad" site [child.clsName, name] notes
 else if baseTy.isCls && u.isProp baseTy then
  let hasDecl := !(<- declsOf other.sym).isEmpty
  if !(subTy.isCls && u.isProp subTy) && !subTy.isAnyLike then
   if hasDecl then reportVar
  else checkProp base.clsTy child baseTy subTy name (if hasDecl then site else none) fun _ => pure site
 else if <- isReported .varOverride site then
  let primary := (<- lastTypedDecl? base.sym).bind (·.asVar?)
  let baseEnt <- tdictEnt? base.clsTy name
  let ent <- tdictEnt? other.clsTy name
  let isInvar := primary.any (!·.isFinal) && !(<- isFrozenField base.clsTy name) && !baseEnt.any (·.isReadOnly)
  if !(<- canAssign baseTy (own.getD subTy) {invar := isInvar}) then reportVar
  else if let (some baseEnt, some ent) := (baseEnt, ent) then
   let (required, readOnly) := entProblem? baseEnt ent name
   if let some msg := required <|> readOnly then report .varOverride msg site

def checkMixedBases (site : Node) : Act := do
 let rules <- rulesOf site
 if rules.level .methOverride == .none && rules.level .varOverride == .none then return
 let bases := (<- infoOf ty).bases.filter fun base => base.isCls && !base.isBuiltIn ["Generic", "Protocol"]
 if bases.length < 2 then return
 let own <- declFields ty
 for base in bases.drop 1 do
  let some base := ((<- univ).mro ty).find? fun other => other.isCls && other.isOfSameCls base | continue
  for (name, mem) in <- declFields base do
   if isDunder name || isPrivate name || !mem.clsTy.isCls then continue
   let some other := own.lookup name | continue
   if !other.clsTy.isCls || other.clsTy.isOfSameCls mem.clsTy || other.clsTy.isOfSameCls ty then continue
   checkMixedMem mem other ty name site

/-! ### Overloads and typed dictionaries -/

def reportOvl (ovl : Ty) (msg : String) : Act := do
 let some id := ovl.fn.decl | return
 let decl <- declAt id
 report .mixedOvl msg (decl.nameNode?.getD decl.node)

def checkOvlMarks : Act := do
 for (_, sym) in (<- fieldsOf ty).ents do
  if !(<- lastTypedDecl? sym).any (·.node.isFn) then continue
  let meth <- effTy sym
  if !meth.isOvld then continue
  let hasImpl := meth.impl?.isSome
  for ovl in (if hasImpl then meth.ovls else meth.ovls.drop 1) do
   if ovl.fn.flags.final then reportOvl ovl (if hasImpl then say "ovldFinalImpl" else say "ovldFinalNoImpl")
   if ovl.fn.flags.overridden then
    reportOvl ovl (if hasImpl then say "ovldOverImpl" else say "ovldOverNoImpl")
  if let some impl := meth.impl?.filter (·.isFn) then
   if !impl.fn.flags.absMeth then
    for ovl in meth.ovls do if ovl.fn.flags.absMeth then reportOvl ovl (say "ovldAbsImplBad")
  else
   let isAbs := meth.ovls.head?.any (·.fn.flags.absMeth)
   for ovl in meth.ovls.drop 1 do
    if ovl.fn.flags.absMeth != isAbs then reportOvl ovl (say "ovldAbsBad")

def checkClosedBases : Act := do
 if !(<- flagsOf ty).tdict then return
 let ents <- typedEnts ty
 for base in (<- infoOf ty).bases do
  let u <- univ
  if !base.isCls || !(u.flags base).tdict || !(u.flags base).isClosedDict then continue
  let baseEnts <- typedEnts base
  let u <- univ
  let extra := baseEnts.extra
  let extraTy := extra.elim .unk (u.applySol ·.valTy (u.solOf base))
  let flags := {invar := extra.any (!·.isReadOnly)}
  let mut notes := Adden.empty
  for (name, ent) in ents.known do
   if (baseEnts.known.lookup name).isSome then continue
   if extra.all (·.valTy.isNever) then notes := notes.say "tdClosedExtraBad" [name]
   else if !(<- canAssign extraTy ent.valTy flags) then
    notes := notes.say "tdClosedExtraTyBad" [name, <- printTy ent.valTy]
   else if extra.any (!·.isReadOnly) && ent.isReq then notes := notes.say "tdClosedFieldOpt" [name]
  if let (some own, some _) := (ents.extra, extra) then
   if !(<- canAssign extraTy own.valTy flags) then
    notes := notes.say "tdClosedExtraTyBad" ["extra_items", <- printTy own.valTy]
  if notes.isEmpty then continue
  let some place := (<- (u.info ty).decl.mapM declAt).bind (·.nameNode?) | continue
  let msg <- if extra.isSome then pure (say "tdClosedExtras" [base.clsName, <- printTy extraTy])
   else pure (say "tdClosedNoExtras" [base.clsName])
  report .varOverride (msg ++ notes.print) place

end TypeChecker.Check
