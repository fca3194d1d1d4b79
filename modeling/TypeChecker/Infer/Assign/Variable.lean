import TypeChecker.Infer.Print
import TypeChecker.Infer.Lookup

/-! Assigning types to type variables, and solving for the variables. -/

namespace TypeChecker.Infer
open Match
variable [Evals]
def noteClash (src dest : Ty) := noteMsg do
 let (srcTy, destTy) <- printPair src dest
 return say "tyBadNote" [srcTy, destTy]

variable (ty : Ty) (set : ConstrSet) (constrs : Constrs)
def isSpecFormCls (flags : AssignFlags) := do
 return !flags.allowInstForms && (<- flagsOf ty).specForm

def stripTupLits : Eval Ty := do
 match ty.isUnpCls, ty.tupArgs? with
 | true, some args =>
  let stripped <- args.mapM fun arg => return {arg with ty := (<- stripLit arg.ty).stripTyForm}
  if (args.zip stripped).all fun (old, new) => old.ty.isIdentical new.ty then return ty
  return ty.specTup stripped true true
 | _, _ => pure ty

def stripForLowerBound (tyVar lower : Ty) := do
 if tyVar.isTupVar then stripTupLits lower else pure (<- stripLit lower).stripTyForm

def constrainedTy? (tyVar : Ty) (lowerOnly : Bool := false) : Eval Ty? := do
 let some ent := set.get? tyVar | pure none
 if tyVar.isSigVar then
  let some lower := ent.lower | return none
  if lower.isFn then return lower
  if lower.isAnyLike then return some .unkParSpec
 let some lower := ent.lower | return if lowerOnly then none else ent.upper
 if ent.retainLits then return lower
 let stripped <- stripForLowerBound tyVar lower
 if stripped.isIdentical lower then return lower
 if !(<- if let some upper := ent.upper then canAssign upper stripped else pure true) then return lower
 if tyVar.hasConstrs then return if tyVar.shared.constrs.any (stripped.isSame ·) then stripped else lower
 pure stripped

def solveVar (lowerOnly : Bool) : Nat -> VarBounds -> SolSet -> Eval (Ty? × SolSet)
 | 0, _, sol => pure (none, sol)
 | fuel + 1, ent, sol => do
  let data := ent.tyVar.var
  if sol.contains data then return (sol.get? data, sol)
  let sol := sol.setTy data none
  let some val <- constrainedTy? set ent.tyVar lowerOnly | pure (none, sol.setTy data none)
  let u <- univ
  let (dependent, sol) <- (u.tyVarsOf val).foldlM (fun (dependent, sol) tyVar => do
   if tyVar.isSame ent.tyVar {ignoreMarks := true} || tyVar.isBoundVar then return (dependent, sol)
   let some other := set.get? tyVar | pure (dependent, sol)
   let (hit, sol) <- solveVar lowerOnly fuel other sol
   pure (if let some ty := hit then dependent.setTy tyVar ty else dependent, sol)) (({} : Sol), sol)
  let val := if dependent.isEmpty then val else u.applySol val dependent
  pure (val, sol.setTy data val)

variable (lowerOnly : Bool := false)
def solveSet :=
 set.ents.foldlM (fun sol (_, ent) => return (<- solveVar set lowerOnly (set.ents.length + 1) ent sol).2) {}

def solveConstrs : Eval Sol := return {sets := <- constrs.sets.mapM (solveSet · lowerOnly)}

def solve (opts : ApplyOpts := {}) (lowerOnly : Bool := false) : Eval Ty := do
 let sol <- solveConstrs constrs lowerOnly
 return (<- univ).applySol ty sol opts

def applyToConstrs (sol : Sol) : Eval Constrs := do
 if sol.isEmpty then return constrs
 let u <- univ
 let apply ty := ty.map (u.applySol · sol)
 pure { constrs with sets := constrs.sets.map fun set =>
  {set with ents := set.ents.map fun (key, ent) =>
   (key, {ent with lower := apply ent.lower, upper := apply ent.upper})}}

variable (dest src : Ty) (lower upper : Ty?) (ent : Option VarBounds) (flags : AssignFlags) (depth : Nat)
def assignInsideVar : Fits := do
 if src.isAnyLike || (src.isCls && (<- univ).derivesFromAny src) then return true
 if dest.isSigVar && src.isFn && src.fn.flags.gradual then return true
 if src.isNever && !flags.invar then return true
 if src.isObjOf "type" && dest.isInsta && (src.tyArgs.head?.all Ty.isAnyLike) then return true
 if !dest.shared.isSynth || dest.isSelfVar then noteClash src dest
 pure false

structure NewBounds where
 (lower upper : Ty?)

def lowerUpperBound : Match (Option NewBounds) := do
 let (narrowed, notes) <- apart <| unconstrained do
  let some bound := upper | pure src
  if dest.isSame bound then return some src
  if bound.isSame src then return bound
  if <- assign bound (<- firm src) {} depth then return src
  return if <- assign src bound {} depth then bound else none
 let fail src dest := do
  noteClash src dest
  attach notes
  pure none
 let some narrowed := narrowed | fail (upper.getD .unk) src
 if let some bound := lower then if !(<- canAssign narrowed bound {} depth) then return <- fail bound narrowed
 return some {lower, upper := narrowed}

def maxInferredSubtys := 64

def joinLowerBound (src lower : Ty) (upper : Ty?) (ent : Option VarBounds) (flags : AssignFlags) : Match Ty := do
 let strips := upper.isNone && flags.invar && ent.any (!·.retainLits)
 let lower <- if strips then stripForLowerBound dest lower else pure lower
 let solved <- if let some constrs <- .constrs then solve lower constrs else pure lower
 let obj <- objTy
 if solved.isUnion && maxInferredSubtys < solved.subtys.length && dest.bound?.isSome && obj.isObj then
  return .combine [solved, obj] false maxInferredSubtys
 return .combine [solved, src] false maxInferredSubtys

def widenLowerBound (src lower : Ty) (upper : Ty?) (ent : Option VarBounds)
  (flags : AssignFlags) (depth : Nat) : Match Ty? := do
 let u <- univ
 if dest.isSame lower then return src
 if lower.isSame src then
  if upper.isNone && flags.invar && ent.any (!·.retainLits) then return <- stripForLowerBound dest lower
  return lower
 if <- quietly (assign lower src flags depth) then
  if u.isPartlyUnk lower && !src.isUnk then if <- quietly (assign src lower {} depth) then return src
  let some constrs <- .constrs | return lower
  return <- solve lower constrs
 if lower.isTyVar && !src.isTyVar then if <- quietly (assign (<- firm lower) src flags depth) then return src
 if <- quietly (assign src lower {} depth) then return if src.isTyVar then lower else src
 if dest.isTupVar then
  let widened <- do
   if !lower.isUnpCls || !src.isUnpCls || lower.tupArgs?.isNone ||
     src.tupArgs?.isNone || lower.tupArgs.length != src.tupArgs.length then pure none
   else
    let lhs <- stripTupLits lower
    pure (if lhs.isSame (<- stripTupLits src) then lhs else none)
  if widened.isNone then noteClash lower src
  return widened
 return <- joinLowerBound dest src lower upper ent flags

def raiseLowerBound : Match (Option NewBounds) := do
 let widened <- if let some lower := lower then widenLowerBound dest src lower upper ent flags depth
  else pure (some src)
 let some widened := widened | pure none
 if flags.invar then
  if !(<- below (unconstrained (assign src widened {} depth))) then
   noteClash widened src
   return none
 if let some bound := upper then
  if !bound.isSame widened then
   if !(<- below (unconstrained (assign bound widened {} depth))) then
    noteClash widened bound
    return none
 return some {lower := widened, upper}

def srcForVar (src adjusted : Ty) : Match Ty? := do
 let u <- univ
 if dest.isInsta then
  if u.actsAsInsta adjusted then return adjusted.toInst false
  let hit <- firm adjusted
  if u.actsAsInsta hit then return hit.toInst
  noteClash src dest
  return none
 if src.isTyVar && src.isInsta && src.toInst.isSame dest then
  noteClash adjusted dest
  return none
 pure adjusted

def assignFreeVar : Fits := do
 let u <- univ
 let isContra := flags.contra && !flags.invar
 let ent := (<- .constrs).bind (·.main.get? dest)
 let upper := (ent.bind (·.upper)) <|> (if dest.isSelfVar then none else dest.bound?)
 let lower := ent.bind (·.lower)
 let adjusted := if !flags.allowUnspecifiedTyArgs && src.isCls && src.cls.orSub then u.specDflt src else src
 let some adjusted <- srcForVar dest src adjusted | pure false
 if flags.populateWant && flags.skipPopulateUnk && adjusted.isUnk then return true
 let bounds <-
  if flags.populateWant then
   let populated :=
    if ent.isSome then {lower, upper}
    else if flags.invar then {lower := adjusted, upper := adjusted}
    else if isContra then {lower := adjusted, upper}
    else {lower, upper := adjusted}
   pure (some populated)
  else if isContra then lowerUpperBound dest adjusted lower upper depth
  else raiseLowerBound dest adjusted lower upper ent flags depth
 let some bounds := bounds | pure false
 let newUpper := if bounds.upper.isNone && flags.invar then bounds.lower else bounds.upper
 if let some bound := dest.bound? then
  let updated := (bounds.lower <|> newUpper).getD .unk
  if dest.isInsta && !(<- univ).actsAsInsta src true then return false
  let action := below (assign bound (<- firm updated) {} depth)
  if !(<- if dest.isSelfVar then action else unconstrained action) then
   if !dest.shared.isSynth then
    note "tyBound" [printTy updated, printTy bound, dest.var.readableName]
   return false
 if let some constrs := <- .constrs then
  setConstrs (constrs.setTy dest bounds.lower newUpper (flags.populateWant || flags.retainLits))
 pure true

def bestConstr (mem : Ty) (depth : Nat) : Eval (Option (Ty × Nat)) :=
 dest.shared.constrs.zipIdx.foldlM (fun best (constr, idx) => do
  let adjust ty := if dest.isInsta then ty.toInsta else ty
  if !(<- canAssign (adjust constr) mem {} depth) then return best
  let isBetter <- if let some (hit, _) := best then canAssign (adjust hit) (adjust constr) {} depth else pure true
  return if isBetter then (constr.addConds mem.ownConds, idx) else best) none

def constrFor (src hit : Ty) (flags : AssignFlags) (depth : Nat) : Eval Ty? := do
 if src.isTyVar then
  if <- canAssign dest hit {} depth then return if src.isInsta then src.toInst false else src
  return none
 let (chosen, _, isCompat) <- hit.subtys.foldlM (fun (chosen, used, isCompat) mem => do
  if mem.isAnyLike then return (chosen ++ [some mem], used, isCompat)
  let best <- bestConstr dest mem depth
  let isCompat := isCompat && (best.isSome || flags.contra)
  if let some (_, idx) := best then
   if mem.ownConds.isEmpty then return (chosen ++ [best.map (·.1)], idx, isCompat && used.all (· == idx))
   pure (chosen ++ [best.map (·.1)], used, isCompat)
  else pure (chosen ++ [none], used, isCompat))
  (([] : List Ty?), (none : Nat?), true)
 let joined := if hit.isUnion then hit.remapped hit.subtys chosen {} else (chosen.head?.join).getD .never
 if isCompat && !joined.isNever then return joined
 if !hit.isUnion then return none
 dest.shared.constrs.findM? fun constr => canAssign (if dest.isInsta then constr.toInsta else constr) hit {} depth

def assignConstrainedVar : Fits := do
 let ent := (<- .constrs).bind (·.main.get? dest)
 let upper := ent.bind (·.upper)
 let set ty retainLits := do
  if let some constrs := <- .constrs then setConstrs (constrs.setTy dest ty upper retainLits)
 match <- constrFor dest src (<- firm src) flags depth with
 | none =>
  note "tyConstrTyVar" [printTy src, dest.shared.name]
  pure false
 | some chosen =>
  if let some lower := (ent.bind (·.lower)).filter (!·.isAnyLike) then
   if !(<- canAssign lower chosen {} depth) then
    if <- canAssign chosen lower {} depth then set chosen false
    else
     note "tyConstrTyVar" [printTy chosen, printTy lower]
     return false
  else set chosen chosen.isLitOrUnion
  pure true

def assignParSpecIn (set : ConstrSet) : Eval (Option ConstrSet) := do
 if !src.isSigVar && !src.isFn then return if src.isAnyLike then set else none
 let taken := set.setBounds {tyVar := dest, lower := src}
 let some existing := (set.get? dest).bind (·.lower) | pure taken
 let val := existing.toParSpecVal
 if src.isSigVar then
  return if val.dropTrailSig.fn.pars.isEmpty && (Ty.trailSig? val.fn).any (·.isSame src) then set else none
 let old := val.simplifySig
 let isNarrower <- canAssign old src {skipRetCheck := true} depth
 if (<- canAssign src old {skipRetCheck := true} depth) && !(isNarrower && src.fn.flags.gradual) then return taken
 return if isNarrower then set else none

def assignParSpec : Fits := do
 let some constrs <- .constrs | pure true
 let src := if src.isSigVar then src else src.toParSpecVal
 let src := if src.isFn then src.simplifySig else src
 let results <- constrs.sets.mapM fun set => do
  let res <- assignParSpecIn dest src depth set
  if res.isNone then note "tySig" [printTy src, dest.shared.name]
  pure (set, res)
 setConstrs (some {constrs with sets := results.map fun (set, res) => res.getD set})
 return results.all (·.2.isSome)

def assignTyVar (flags : AssignFlags := {}) (depth : Nat := 0) : Fits := do
 let (dest, src) := if dest.isUnp && src.isUnp then (dest.packVar, src.pack) else (dest, src)
 if dest.var.scopeId.isNone then return true
 if dest.isBoundVar && !dest.var.isUnification then return <- assignInsideVar dest src flags
 if dest.isInsta && src.isClsObj then if <- isSpecFormCls src flags then return false
 if dest.isSame src then return true
 if dest.isSigVar then return <- assignParSpec dest src depth
 let src <-
  if dest.isTupVar && !dest.var.isInUnion then
   if dest.var.isUnp then
    let some tup <- tupCls? | pure src
    pure (if src.isUnp then src else (tup.specTup [{ty := src}] true true).toInst)
   else pure src.unpack
  else pure src
 let src := if src.isTupVar && src.var.isUnp && !src.var.isInUnion && !dest.isTupVar then src.unpackVar true else src
 if dest.hasConstrs then assignConstrainedVar dest src flags depth else assignFreeVar dest src flags depth

def standInVars (pars : Tys) (start : String) (change : Nat -> Ty -> Ty) : Eval Tys :=
 pars.zipIdx.mapM fun (par, idx) => do
  let tyVar := .ofVar
   {id := <- freshVarId, name := start ++ idx.repr, isSynth := true
    kind := if par.isSigVar then .parSpec else .tyVar}
  return change idx tyVar

def expectTy (want : Ty) (live : Option (List TyScopeId)) (usage : Nat? := none) : Fits := do
 let u <- univ
 let set tyVar (lower upper : Ty?) := do
  if let some constrs := <- .constrs then setConstrs (constrs.setTy tyVar lower upper)
 let adapt (val : Ty) := if let some scopes := live then u.unifyVarsOutside scopes usage val else val
 if want.isAny then
  (u.tyPars ty).forM (set · want want)
  return true
 let want := if want.isSelfVar then want.bound?.getD want else want
 if !want.isCls then return false
 let some wantArgs := want.tyArgs? | quietly (assign ty want {populateWant := true})
 Evals.inferVariance ty
 let u <- univ
 if want.sameCls ty then
  let sol := (u.solOf want).main
  (u.tyPars want).forM fun par => do
   let some val := (sol.get? par.var).map adapt | pure ()
   let variance := par.var.variance
   set par (if variance == .covar then none else some val) (if variance == .contra then none else some val)
  return true
 let scopeId := want.scopeId?
 let goal <- standInVars (u.tyPars want) "__dest" fun _ tyVar => tyVar.withVar ({· with scopeId})
 let srcs <- standInVars (u.tyPars ty) "__source" fun idx tyVar =>
  (tyVar.withVar fun data => {data with shared := {data.shared with
   synthIdx := idx, isExemptFromBoundCheck := true}}).asUnificationVar none
 let (fits, made) <- constrained {} <| assign (want.spec (some goal)) (ty.spec (some srcs)) {populateWant := true}
 if !fits then return false
 let expectArg tyVar idx := do
  let isStandIn ty := ty.isTyVar && ty.shared.isSynth && ty.shared.synthIdx.isSome
  let some hit <- constrainedTy? made.main tyVar | pure true
  let hit := if tyVar.isSigVar && hit.isFn then hit.simplifySig else hit
  let (hit, others) :=
   if hit.isUnion then
    let mems := u.sortTys hit.subtys
    if let some place := mems.findIdx? isStandIn then (mems.getD place hit, mems.eraseIdx place) else (hit, mems)
   else (hit, [])
  match isStandIn hit, hit.shared.synthIdx, wantArgs[idx]? with
  | true, some place, some val =>
   let val := u.unrollAlias val
   let val := if others.isEmpty then val else .combine (val :: others)
   let some tgt := (u.tyPars ty)[place]? | pure true
   quietly (assignTyVar tgt (adapt val) {retainLits := true})
  | _, _, _ => pure true
 goal.zipIdx.foldlM (fun fits (tyVar, idx) => return (<- expectArg tyVar idx) && fits) true

end TypeChecker.Infer
