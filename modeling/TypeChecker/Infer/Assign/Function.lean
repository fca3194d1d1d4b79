import TypeChecker.Infer.Assign.Protocol
import TypeChecker.Infer.Assign.Union

/-! Assigning classes to classes, by inheritance, as protocols or as typed dictionaries, and functions to functions. -/

namespace TypeChecker.Infer
open Match
variable [Evals]
inductive AncestorView where
 | decided (fits : Bool)
 | reached (ty : Ty)

def climb (u : Univ) (dest : Ty) : Bool -> Ty -> Ty? -> Tys -> AncestorView
 | _, cur, _, [] => .reached cur
 | isFirst, cur, prev, sup :: rest =>
  if sup.isUnk then .decided (!dest.isNoneCls)
  else
   let src := if cur.isNamed "NamedTuple" && sup.isNamed "tuple" then prev.getD cur else cur
   let cur := if isFirst then cur else u.specForBase src sup
   if (u.tyPars sup).isEmpty then climb u dest false cur prev rest
   else if sup.tyArgs?.isNone then .decided true
   else climb u dest false cur cur rest

variable (u : Univ) (dest src : Ty) (assumed : Variance)
def assignDerived (chain : Tys) (flags : AssignFlags) (depth : Nat) : Fits := do
 Evals.inferVariance dest
 if flags.invar && src.isLitLike != dest.isLitLike then return false
 let u <- univ
 match climb u dest true src none chain.reverse with
 | .decided fits => pure fits
 | .reached cur =>
  if dest.tupArgs?.isSome && cur.tupArgs?.isSome then return <- assignTup dest cur flags depth
  if dest.tyArgs?.isSome then
   let action := assignTyArgs dest cur flags depth
   return <- if flags.invar then quietly action else action
  match <- constrs, cur.tyArgs? with
  | some constrs, some args =>
   let packed <- cur.tupArgs?.mapM fun ents => return (<- tupObj ents true).toInst
   let constrs := (u.tyPars dest).zipIdx.foldl (fun (constrs : Constrs) (par, idx) =>
    let arg := packed.getD (args.getD idx .unk)
    let variance := par.var.variance
    constrs.setTy par (if variance == .contra then none else arg)
     (if variance == .covar then none else arg) true) constrs
   setConstrs constrs
  | _, _ => pure ()
  pure true

def asMapping (depth : Nat) : Eval Ty := do
 let known <- prefetched
 let spec mapping val :=
  match mapping.filter (·.isClsObj), known.strCls.filter (·.isClsObj), val with
  | some mapping, some str, some val => mapping.spec [str.clsInst, val]
  | _, _, _ => src
 if dest.isNamed "Mapping" then return spec known.mappingCls (<- mappingEquivalent? src)
 if dest.isBuiltIn ["dict", "MutableMapping"] then return spec known.dictCls (<- dictEquivalent? src depth)
 pure src

def isPromoted :=
 dest.cls.includePromotions &&
  ((promotions.lookup dest.clsFullName).getD []).any fun name =>
   (u.mro src).any fun sup => sup.isCls && sup.clsFullName == "builtins." ++ name

def noteClsClash (asObjs : Bool) : Match Unit := do
 noteMsg do
  let shown ty := if asObjs then ty.clsInst else ty
  let destText <- printTy (shown dest)
  let srcText <- printTy (shown src)
  let (destText, srcText) :=
   if destText == srcText && dest.clsFullName != "" && src.clsFullName != "" then (dest.clsFullName, src.clsFullName)
   else (destText, srcText)
  return say "tyClash" [srcText, destText]
 if dest.isNamed "bytes" && ((promotions.lookup dest.clsFullName).getD []).any fun name =>
       src.clsFullName == "builtins." ++ name then
  note "bytesTyPromotions"

def assignCls (flags : AssignFlags) (depth : Nat) (asObjs : Bool) : Fits := do
 let u <- univ
 if u.isHierarchyPartial dest || u.isHierarchyPartial src then return true
 let isTdict := (u.flags src).tdict
 if isTdict && (u.flags dest).tdict && !dest.sameCls src then
  if !(<- assignTdict dest src flags depth) then return false
  if flags.invar then return <- plain (assignTdict src dest flags depth)
  return true
 let src <- if isTdict then asMapping dest src depth else pure src
 let u <- univ
 if isPromoted u dest src && !flags.invar then return true
 let chain := u.inherChain? src dest
 if (u.flags dest).proto && chain.isNone then
  let fits <- below (assignClsToProto dest src.clsInst flags depth)
  if !fits then note "protoUnfit" [printTy src.toInst, printTy dest.toInst]
  return fits
 if !flags.invar || src.sameCls dest then
  let some chain := chain | pure ()
  if <- below (assignDerived dest src chain flags depth) then return true
 if dest.isNamed "object" && !flags.invar then return true
 noteClsClash dest src asObjs
 pure false

/-! Variance. -/

def baseVarianceFits :=
 (u.tyPars dest).zipIdx.all fun (par, idx) =>
  if par.isSigVar || par.isTupVar || par.shared.isSynth then true
  else match src.tyArgs[idx]?, dest.tyArgs[idx]? with
   | some srcArg, some destArg =>
    let variance := par.shared.declVariance
    !(srcArg.isTyVar && (variance matches .invar | .contra)) &&
     !(destArg.isTyVar && (variance matches .invar | .covar))
   | _, _ => true

def assignOwnMem (name : String) (sym : SymId) (depth : Nat) : Ask := do
 if (<- symFlags sym).noProto || name == "__new__" || name == "__init__" then return true
 let some mem <- clsMem? src name | pure true
 let destTy <- effTy sym
 let srcTy <- tyOfMem mem
 let u <- univ
 let destTy := u.partlySpec destTy dest (<- tyCls?)
 let isProp ty := ty.isObj && (u.flags ty).prop
 if isProp destTy && isProp srcTy then return <- plain (assignProp destTy.clsObj srcTy.clsObj dest src none depth)
 let invar := if let some decl := (<- declsOf sym).head? then decl.asVar?.isSome && !isFinalDecl decl &&
   !u.isMemReadOnly dest name && !Name.isPrivateOrProtected name
  else false
 canAssign destTy srcTy {invar, skipSelfClsParCheck := true} depth

def assignToSelfIn (ignoresBases : Bool) (depth : Nat) : Nat -> Ty -> Ty -> Ask
 | 0, _, _ => pure true
 | fuel + 1, dest, src => do
  let u <- univ
  let src := u.bindVarsOf src.scopeIds src
  let dest := u.bindVarsOf dest.scopeIds dest
  modify fun s => {s with selfAssignments := s.selfAssignments ++ [(dest, assumed)]}
  let memsFit <- (<- fieldsOf dest).ents.toList.allM fun (name, sym) => assignOwnMem dest src name sym depth
  let u <- univ
  let fits <- if !memsFit then pure false else
   (u.info dest).bases.allM fun base => do
    if !base.isClsObj || base.isBuiltIn ["object", "Protocol", "Generic"] || (u.tyPars base).isEmpty then return true
    let destBase := u.specForBase dest base
    let srcBase := u.specForBase src base
    if !ignoresBases && !baseVarianceFits u destBase srcBase then return false
    if u.isTupCls destBase then return true
    assignToSelfIn ignoresBases depth fuel destBase srcBase
  modify fun s => {s with selfAssignments := s.selfAssignments.dropLast}
  pure fits

def assignClsToSelf (ignoresBases : Bool) := assignToSelfIn assumed ignoresBases 0 64 dest src

def solved (ty : Ty) (lowerOnly : Bool := false) : Match Ty := do
 let some constrs <- constrs | pure ty
 solve ty constrs {} lowerOnly

def assignPar (src : Ty) (place : Nat?) (flags : AssignFlags) (depth : Nat) : Fits := do
 if dest.isTupVar && !src.isUnp then return false
 let (specdDest, specdSrc, specializes) <-
  if flags.ovlOverlap then pure (dest, src, false)
  else if !flags.contra then do
   let specd <- if flags.argFirstPass then pure dest else solved dest true
   pure (specd, src, (<- univ).needsSpec specd)
  else do
   let specd <- if flags.argFirstPass then pure src else solved src true
   pure (dest, specd, (<- univ).needsSpec specd)
 let specdDest <-
  if specializes then do
   let inverse := {flags with contra := !flags.contra, retainLits := true}
   if <- quietly (assign specdSrc specdDest inverse depth) then solved dest else pure specdDest
  else pure specdDest
 if <- below (assign specdSrc specdDest flags depth) then return true
 if let some place := place then note "parPut" [place.repr, printTy dest, printTy src]
 pure false

def tupEntsOf (ent : VirtualPar) :=
 if ent.cat == .argsList then
  if ent.ty.isUnpTupVar then [{ty := ent.ty}]
  else match ent.ty.isUnpCls, ent.ty.tupArgs? with
   | true, some args => args
   | _, _ => [{ty := ent.ty, isUnb := true}]
 else [{ty := ent.ty, isOpt := ent.dfltTy.isSome}]

def packForMany (src dest : ParList) : Eval ParList := do
 let some start := dest.argsIdx | pure src
 if !(dest.get start).ty.isUnp || src.pars.size < start || src.argsIdx.any (· < start) then return src
 let pars := src.pars.toList
 let lastToPack := ((pars.zipIdx.find? fun (par, idx) =>
  start <= idx && par.kind == .kw).map (·.2)).getD pars.length
 let stop : Int := lastToPack - (dest.posList - start - 1)
 let packed := (pars.take (if stop < 0 then pars.length + stop else stop).toNat).drop start
 let ents := packed.flatMap tupEntsOf
 if let [only] := ents then if only.ty.isTupVar then return src
 let ty <- tupObj ents true
 let combined :=
  {par := {cat := .argsList, ty, name := "_arg_combined", flags := {nameSynth := true, tyDecl := true}}
   ty, declTy := ty, idx := none, kind := .byPos}
 let pars := pars.take start ++ [combined] ++ pars.drop (start + packed.length)
 pure {src with
  pars := pars.toArray
  argsIdx := pars.findIdx? (·.cat == .argsList)
  kwargsIdx := pars.findIdx? (·.cat == .kwargsDict)
  firstKwOnly := pars.findIdx? (·.kind == .kw)
  posOnlyCount := (pars.findIdx? fun par =>
   par.kind != .byPos || par.cat != .simple || par.dfltTy.isSome).getD 0}

structure FnPair where
 (dest src : Ty)
 (destSpec srcSpec : Ty?)
 (destList srcList : ParList)
 flags : AssignFlags
 depth : Nat

namespace FnPair

def tgtHasSpec (pair : FnPair) := if pair.flags.contra then pair.srcSpec.isSome else pair.destSpec.isSome

end FnPair

def compareParNames (dest src : VirtualPar) : Fits := do
 if dest.name == "" || dest.kind.isByPos || dest.cat == .argsList || src.cat == .argsList then return true
 if src.kind.isByPos then
  noteBelow "fnParPosOnly" [dest.name]
  return false
 if dest.name != src.name then
  noteBelow "fnParName" [dest.name, src.name]
  return false
 pure true

variable (pair : FnPair)
def assignByPos (idx : Nat) : Fits := do
 let {dest, src, destList, srcList, flags, depth, ..} := pair
 let goal := destList.get idx
 let given := srcList.get idx
 let namesFit <- compareParNames goal given
 let dfltFits <-
  if goal.dfltTy.isSome && given.dfltTy.isNone && srcList.argsIdx != idx then do
   noteBelow "fnParDfltGone" [given.name]
   pure false
  else pure true
 let fits := namesFit && dfltFits
 if goal.dfltTy.isSome && flags.partialOverlap && given.dfltTy.isSome then return fits
 let isInit ty := ty.fn.name == "__init__" && ty.fn.isInstMeth
 if idx == 0 && isInit src && isInit dest && dest.fn.flags.ovld && goal.par.isTyDecl then return fits
 if given.ty.isUnp then return false
 if !(<- below (assignPar goal.ty given.ty (some (idx + 1)) flags depth)) then
  return fits && flags.skipSelfClsTyCheck && given.ty.isTyVar && given.ty.shared.isSynth
 if !goal.kind.isByPos && given.kind == .byPos && srcList.kwargsIdx.isNone &&
   !srcList.pars.any fun par =>
    par.kind == .kw && par.cat == .simple && par.name? == goal.name? then
  note "kwParGoneInSrc" [goal.name]
  return false
 pure fits

def assignPosList := do
 (List.range (min pair.destList.posList pair.srcList.posList)).foldlM (fun (fits, skipped) idx => do
  let data := pair.dest.fn
  if idx == 0 && data.methCls.isSome && pair.flags.skipSelfClsParCheck &&
    (data.isInstMeth || data.flags.clsMeth) then return (fits, skipped)
  if pair.destList.argsIdx == some idx then
   return (fits, if (pair.destList.get idx).ty.isUnpTupVar then skipped else skipped ++ [idx])
  pure ((<- assignByPos pair idx) && fits, skipped)) (true, [])

def assignExtraSrc (skipped : List Nat) : Fits := do
 let {destList, srcList, flags, depth, ..} := pair
 let places := skipped ++ (List.range srcList.posList).drop destList.posList
 let mut fits := true
 for idx in places do
  let given := srcList.get idx
  if let some args := destList.args? then
   if !(<- below (assignPar args.ty given.ty (some (idx + 1)) flags depth)) then fits := false
  else if let some dfltTy := given.dfltTy then
   if !(<- below (assign given.ty dfltTy flags depth)) && !flags.partialOverlap then fits := false
  else if given.kind != .standard && given.cat != .argsList then
   let needed := srcList.pars.filter fun par => par.name != "" && par.dfltTy.isNone && par.cat == .simple
   noteBelow "fnFewPars" [needed.size.repr, destList.posList.repr]
   fits := false
   break
 pure fits

def assignExtraDest : Fits := do
 let {destList, srcList, flags, depth, ..} := pair
 if let some argsIdx := srcList.argsIdx then
  let args := (srcList.get argsIdx).ty
  ((List.range destList.posList).drop srcList.posList).foldlM (fun fits idx => do
   if idx == argsIdx then return fits
   let goal := destList.get idx
   if goal.ty.isTupVar && !args.isTupVar then
    note "tupVarNeedsKnownSize"
    return false
   let parFits <- below (assignPar goal.ty args (some (idx + 1)) flags depth)
   if !goal.kind.isByPos && srcList.kwargsIdx.isNone then
    note "kwParGoneInSrc" [goal.name]
    return false
   return fits && parFits) true
 else
  if srcList.parSpec.isSome then return true
  let count := destList.posList - (if destList.argsIdx.any (· < destList.posList) then 1 else 0)
  let count :=
   if flags.partialOverlap then (((destList.pars.toList.take count).reverse.dropWhile (·.dfltTy.isSome))).length
   else count
  if srcList.posList < count then
   note "fnOverPars" [srcList.posList.repr, destList.posList.repr]
   return false
  pure true

def assignVariadics : Fits := do
 let {dest, destList, srcList, flags, depth, ..} := pair
 if dest.fn.flags.gradual then return true
 let unp ty := do
  if ty.isUnp then return ty
  tupObj [{ty, isUnb := true}] true
 match destList.args?, srcList.args? with
 | some goal, some given => below (assignPar (<- unp goal.ty) (<- unp given.ty) goal.place flags depth)
 | some goal, none =>
  if pair.srcSpec.isSome || destList.hasUnpTupVar then return true
  noteBelow "argsParGone" [goal.name]
  pure false
 | none, _ => pure true

def assignKw (given : VirtualPar) (goal : Option VirtualPar) : Fits := do
 let {destList, flags, depth, ..} := pair
 match goal with
 | none =>
  match destList.kwargs?, given.dfltTy with
  | none, none =>
   noteBelow "kwParGoneInDest" [given.name]
   pure false
  | some kwargs, _ => below (assignPar kwargs.ty given.ty kwargs.place flags depth)
  | none, some dfltTy => return (<- below (assign given.ty dfltTy flags depth)) || flags.partialOverlap
 | some goal =>
  if given.dfltTy.isSome && goal.dfltTy.isSome && flags.partialOverlap then return true
  let specd <- solved goal.ty
  let fits <- below do
   let fits <- below (assignPar goal.ty given.ty none flags depth)
   if !fits then note "kwParTyBad" [given.name, printTy specd, printTy given.ty]
   pure fits
  if goal.dfltTy.isSome && given.dfltTy.isNone then
   noteBelow "fnParDfltGone" [given.name]
   return false
  pure fits

def assignKws : Fits := do
 let {dest, destList, srcList, flags, depth, ..} := pair
 let named := match destList.firstKwOnly with
  | some first => (destList.pars.toList.drop first).foldl (fun named par =>
   if par.name != "" && par.cat == .simple && !par.kind.isByPos then setEnt named par.name par
   else named) ([] : ByName VirtualPar)
  | none => []
 let start :=
  if destList.posList < srcList.posList && destList.argsIdx.isNone then destList.posList
  else srcList.posList
 let (fits, remaining) <- (srcList.pars.toList.drop start).foldlM (fun (fits, remaining) given => do
  if given.name == "" || given.cat != .simple || given.kind == .byPos then return (fits, remaining)
  let parFits <- assignKw pair given (List.lookup given.name remaining)
  pure (fits && parFits, remaining.filter (·.1 != given.name))) (true, named)
 let fits <- remaining.foldlM (fun fits (name, goal) => do
  if let some kwargs := srcList.kwargs? then
   return (<- below (assignPar goal.ty kwargs.ty goal.place flags depth)) && fits
  else
   noteBelow "kwParGoneInSrc" [name]
   pure false) fits
 match destList.kwargs?, srcList.kwargs? with
 | some goal, some given => return (<- below (assignPar goal.ty given.ty goal.place flags depth)) && fits
 | some goal, none =>
  if dest.fn.flags.gradual || pair.srcSpec.isSome then return fits
  noteBelow "kwargsParGone" [goal.name]
  pure false
 | none, _ => pure fits

def restPars (src : Ty) :=
 let required := (dest.fn.pars.zipIdx.filter fun (par, idx) =>
  par.nameText != "" && !(par.cat == .simple && (dest.parTy idx).isSigVar)).length
 (src.fn.pars.zipIdx.foldl (fun (state : Nat × List TyPar) (par, idx) =>
  let (matched, remaining) := state
  let isMatched := matched < required
  let matched := if isMatched && par.nameText != "" then matched + 1 else matched
  if isMatched && par.cat != .argsList then (matched, remaining)
  else if par.isPosSep && remaining.isEmpty then (matched, remaining)
  else (matched, remaining ++ [{par with ty := src.parTy idx, dfltTy := src.fn.parDflt? idx}])) (0, [])).2

def assignToSpec : Fits := do
 let isContra := pair.flags.contra
 let (dest, src) := if isContra then (pair.src, pair.dest) else (pair.dest, pair.src)
 let (destSpec, srcSpec) := if isContra then (pair.srcSpec, pair.destSpec) else (pair.destSpec, pair.srcSpec)
 let some destSpec := destSpec | pure true
 let remaining := restPars dest src
 if remaining.isEmpty && srcSpec.any (·.isSame destSpec {ignoreMarks := true}) then return true
 let destCount := pair.destList.posList
 let srcCount := pair.srcList.posList
 let (destCount, srcCount) := if isContra then (srcCount, destCount) else (destCount, srcCount)
 if srcSpec.isSome && srcCount < destCount then return true
 let data := src.fn
 let specPars := srcSpec.elim [] fun spec => Ty.sigVariadics spec.toInst
 let val := .ofFn
  {flags := {data.flags with synth := true}, pars := remaining ++ specPars
   depr := data.depr, scopeId := data.scopeId, ctorScopeId := data.ctorScopeId, methCls := data.methCls}
 if <- quietly (assign destSpec val pair.flags) then return true
 match remaining, srcSpec with
 | [], some srcSpec => quietly (assign destSpec.toInst srcSpec.toInst pair.flags)
 | _, _ => pure false

def assignRet : Fits := do
 let goal <- effRet pair.dest
 if goal.isAnyLike then return true
 let given <- solved (<- effRet pair.src)
 let u <- univ
 let retainsLits := pair.src.fn.declRet.any (u.containsLit · true)
 let flags := if retainsLits then {pair.flags with retainLits := true} else pair.flags
 below do
  if <- below (assign goal given flags pair.depth) then return true
  if given.isObjIn ["TypeGuard", "TypeIs"] then
   let some bool := (<- prefetched).boolCls | pure ()
   if bool.isClsObj then if <- below (assign goal bool.clsInst pair.flags pair.depth) then return true
  note "fnRetTyBad" [printTy given, printTy goal]
  pure false

def assignFn (src : Ty) (flags : AssignFlags) (depth : Nat) : Fits := do
 let checksRet := !flags.skipRetCheck
 let flags := {flags with skipRetCheck := false}
 let destSpec := Ty.trailSig? dest.fn
 let dest := if destSpec.isSome then dest.dropTrailSig else dest
 let srcSpec := Ty.trailSig? src.fn
 let src := if srcSpec.isSome then src.dropTrailSig else src
 let u <- univ
 let destList := u.parList dest flags.noExtraKwargs
 let srcList := u.parList src flags.noExtraKwargs
 let packedDest <- if flags.contra then packForMany destList srcList else pure destList
 let packedSrc <- if flags.contra then pure srcList else packForMany srcList destList
 let pair : FnPair := {dest, src, destSpec, srcSpec, destList := packedDest, srcList := packedSrc, flags, depth}
 let {destList, srcList, ..} := pair
 let (posListFit, skipped) <- assignPosList pair
 let posOnlyFits <-
  if !dest.fn.flags.gradual && !pair.tgtHasSpec && destList.firstPosOrKw < srcList.posOnlyCount then do
   noteBelow "argsPosOnly" [srcList.posOnlyCount.repr, destList.firstPosOrKw.repr]
   pure false
  else pure true
 let extraFits <-
  if destList.posList < srcList.posList && !pair.tgtHasSpec then assignExtraSrc pair skipped
  else if srcList.posList < destList.posList then assignExtraDest pair
  else pure true
 let variadicsFit <- assignVariadics pair
 let kwsFit <- pure pair.tgtHasSpec <||> assignKws pair
 let overlapFits := !flags.ovlOverlap ||
  (!(src.fn.flags.gradual && !dest.fn.flags.gradual) && !(srcSpec.isSome && destSpec.isNone))
 let sameSpecFits := !pair.tgtHasSpec ||
  (srcSpec.bind (·.var.scopedName)) != (destSpec.bind (·.var.scopedName)) ||
  srcList.pars.size == destList.pars.size
 let specFits <- pure !pair.tgtHasSpec <||> assignToSpec pair
 let retFits <- pure !checksRet <||> assignRet pair
 return posListFit && posOnlyFits && extraFits && variadicsFit && kwsFit &&
  overlapFits && sameSpecFits && specFits && retFits

end TypeChecker.Infer
