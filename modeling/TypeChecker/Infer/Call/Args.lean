import TypeChecker.Infer.MadeClass

/-! Comparing the types of arguments with those of the parameters that they go to, and what a call with these
arguments returns. -/

namespace TypeChecker.Infer
open Match
variable [Evals]
structure ArgOpts where
 (skipUnkCheck isFirstPass : Bool := false)
 conds : List (Cond Ty) := []
 isQuiet := false

variable (site : Node)
def speculNode : Eval Node := do
 let anc <- tree
 let isArg node := node.kind matches .arg ..
 if let some call := (anc.nearestOfKind? site isArg).bind anc.parent? then return call
 if let some parent := anc.parent? site then if parent.clsParts?.any (·.name == site) then return parent
 pure site

variable (ent : ArgMatch) (argTy : Ty) (data : FnData) (lining : Lining) (start : Constrs) (fn : String)
def reportArgClash (notes : Adden) := do
 let arg <- printTy argTy
 let par <- printTy ent.parTy
 let msg := match ent.parName.filter fun _ => !ent.isNameSynth, fn with
  | some name, "" => say "argPutPar" [arg, name, par]
  | some name, _ => say "argPutParFn" [arg, name, par, fn]
  | none, "" => say "argPut" [arg, par]
  | none, _ => say "argPutFn" [arg, par, fn]
 report .argumentTy (msg ++ notes.print) ent.site (notes.effSpan.getD ent.site)

def reportUnkArg : Act := do
 if (<- rulesOf ent.site).level .unkArgTy == .none || ent.parTy.isAny then return
 let simple <- firm argTy.removeUnbound
 let notes := if let some name := ent.parName then
   .ofMsg (if fn == "" then say "argPar" [name] else say "argParFn" [name, fn])
  else .empty
 let u <- univ
 if simple.isUnk then flag .unkArgTy "argTyUnk" ent.site [] notes
 else if u.isPartlyUnk simple && !u.isPartlyUnk ent.parTy then
  flag .unkArgTy "argTyPartlyUnk" ent.site [] (notes.say "argTy" [<- printTy simple {expandAlias := true}])

def checkArg (callee : Typed?) (opts : ArgOpts) : Eval (ArgRes × Constrs) := do
 let u <- univ
 let mut constrs := start
 let mut draft := callee.any (·.draft)
 let mut isCompat := true
 let mut wantDiag := none
 let fn := callee.elim "" (·.ty.fn.name)
 let mut argTy := ent.argTy.getD .unk
 let firstPass := {argFirstPass := opts.isFirstPass}
 if let some val := ent.arg.val then
  let scope := callee.bind (·.ty.fn.scopeId)
  let isBare := ent.parTy.subtys.all fun part => part.isTyVar && part.var.scopeId == scope
  let mut want := none
  if !opts.isFirstPass || !isBare then
   let keeps := ent.parTy.isFn && (Ty.trailSig? ent.parTy.fn).isSome && decide (constrs.sets.length > 1)
   want := (<- if keeps then pure ent.parTy else solve ent.parTy constrs {} opts.isFirstPass)
  want := want.filter (!·.isUnk)
  if ent.argTy.isNone then
   let flags := if ent.instPar then .instDflts else {noFinal := true, noSpec := true}
   let res <- tyOf val flags (Want.make want (callee.any (·.draft)))
   argTy := res.ty
   if ent.arg.cat == .unpList && ent.arg.enforceIterable then
    argTy := (<- Evals.iterated res false val true).elim .unk (·.ty)
   draft := draft || res.draft
   if let some goal := want then
    if u.needsSpec goal then
     let (fits, changed) <- constrained constrs (assign goal argTy firstPass)
     if fits then constrs := changed else isCompat := false
   wantDiag := res.wantDiag
  if let some name := ent.arg.name then
   if !(<- isSpecul ent.site) then writeTy name {ty := want.getD argTy, draft}
 else
  if ent.argTy.isNone then
   let res <- tyOfArg ent.arg
   argTy := res.ty
   draft := draft || res.draft
  if ent.isDflt then argTy <- solve argTy constrs
 if ent.cat == .kwargsDict && ent.parTy.isTyVar then argTy <- stripLit argTy
 if !opts.conds.isEmpty then
  argTy <- mapExpanded argTy (fun part _ _ => (pure part : Eval Ty?)) {filter := opts.conds}
 let done := {isCompat, argTy, draft, conds := argTy.conds}
 if ent.parTy.isSigVar then
  if ent.parTy.var.access.isSome || argTy.isSigVar && argTy.var.access.isSome then return (done, constrs)
 let matching := assign ent.parTy argTy ({firstPass with allowInstForms := ent.instPar})
 let (fits, changed, notes) <- if opts.isQuiet then do
   let (fits, changed) <- constrained constrs matching
   pure (fits, changed, .empty)
  else do
   let (fits, changed, notes) <- constrainedExplained constrs (below matching)
   pure (fits, changed.getD constrs, notes)
 constrs := changed
 if !fits then
  if !opts.isQuiet && (<- rulesOf ent.site).level .argumentTy != .none && !(<- canSkipDiag ent.site) && !draft then
   reportArgClash ent argTy fn (wantDiag.getD notes)
  return ({done with isCompat := false}, constrs)
 if !opts.skipUnkCheck && !draft then reportUnkArg ent argTy fn
 pure (done, constrs)

def exemptVars (u : Univ) (fn ret : Ty) :=
 if !ret.isFn || ret.fn.name != "" || ret.fn.scopeId.isNone || fn.fn.scopeId.isNone then [] else
 let given := (Ty.typedPars fn.fn).flatMap fun (par, ty) => if par.isTyDecl then u.tyVarsOf ty else []
 (u.tyVarsOf ret).filter fun tyVar => !given.any (tyVar.isSame ·)

def rescopeCallable (callNode : Node) (ret : Ty) (live : List TyScopeId) : Eval Ty := do
 if !ret.isFn then return ret
 let pars := ((<- univ).tyVarsOf ret).filter (!·.var.scopeId.any live.contains)
 if pars.isEmpty then return ret
 inferReturns ret
 let scope := TyScopeId.ofNode callNode
 let fresh := pars.map fun tyVar => tyVar.setVarScope scope tyVar.var.scopeName (some .fn)
 let sol := (pars.zip fresh).foldl (fun sol (old, new) => sol.setTy old new) ({} : Sol)
 return (<- univ).applySol
  (ret.withFn ({· with scopeId := scope, ctorScopeId := none, tyPars := fresh}))
  sol

variable (constrs : Constrs)
def initSelfBounds : Eval (Ty? × Constrs) := do
 match data.name, data.strippedFirst, data.boundTo with
 | "__init__", some first, some bound =>
  if !first.isObj || !bound.isObj || !first.sameCls bound then return (none, constrs)
  let some args := first.tyArgs? | pure (none, constrs)
  pure (first, (((<- univ).tyPars first).zip args).foldl (fun constrs (par, arg) =>
   if par.isSame arg {ignorePseudo := true} then constrs else constrs.setTy par arg) constrs)
 | _, _, _ => pure (none, constrs)

def checkAbsCall : Act := do
 if let (some bound, some owner) := (data.boundTo, data.methCls) then
  if !(bound.isCls && bound.cls.orSub) then
   if let some sym <- absSym? owner data.name then
    if !sym.hasImpl then
     report .absUsage (say "absMethCall" [data.name]) (if let .call lhs .. := site.kind then lhs else site)

structure SpecRes where
 failed : Bool
 constrs : List Constrs := []

def checkArgTysIn : Nat -> Node -> Lining -> Constrs -> Bool -> Eval (CallRes × Constrs)
 | 0, _, _, constrs, _ => pure ({argErrs := true}, constrs)
 | fuel + 1, site, lining, start, skipUnk => do
  let ty := lining.ovl
  let data := ty.fn
  let conds := ty.ownConds
  let parSpec := Ty.trailSig? data
  checkAbsCall site data
  let mut (selfTy, constrs) <- initSelfBounds data start
  let skipUnkCheck := skipUnk || data.isBuiltIn ["typing.cast", "typing_extensions.cast",
   "builtins.isinstance", "builtins.issubclass"]
  let callee := {ty, draft := lining.draft}
  let mut draft := lining.draft
  let matched := lining.matched.toList
  let open_ := matched.filter (·.requiresMatching)
  let node <- speculNode site
  for isFirstPass in (if open_.length > 1 then [true, false] else if open_.isEmpty then [] else [false]) do
   let (incomplete, changed) <- trying (some node) (open_.foldlM (fun (incomplete, constrs) ent => do
    let (res, constrs) <- checkArg ent constrs (some callee) {skipUnkCheck, isFirstPass, conds, isQuiet := true}
    pure (incomplete || res.draft, constrs)) (draft, constrs))
   draft := incomplete
   constrs := changed
  let mut failed := false
  let mut score := 0
  let mut hit := []
  let mut results := #[]
  let mut anyArg := none
  let mut sawArgs := false
  let mut sawKwargs := false
  for (ent, idx) in matched.zipIdx do
   let (res, changed) <- checkArg ent constrs callee {skipUnkCheck, conds}
   constrs := changed
   results := results.push res
   if !res.isCompat then
    failed := true
    score := score + 1 + (matched.length - idx)
   draft := draft || res.draft
   hit := Cond.combine hit res.conds
   if res.argTy.isAnyLike then
    anyArg := some (if let some other := anyArg then .preserveUnk res.argTy other else res.argTy)
   if let some spec := parSpec then
    let repeats := say "sigArgsKwargsDup" [<- printTy spec]
    if ent.arg.cat == .unpList && spec.fitsParSpecArgs res.argTy then
     if sawArgs then report .callIssue repeats ent.site
     sawArgs := true
    if ent.arg.cat == .unpDict && spec.fitsParSpecKwargs res.argTy then
     if sawKwargs then report .callIssue repeats ent.site
     sawKwargs := true
  let mut specConstrs := []
  match lining.specArgs, lining.specTgt with
  | some args, some tgt =>
   let forSet := specSigIn fuel site args.toList tgt
   let res <- match constrs.sets with
    | [only] => forSet only
    | sets => do
     let tried <- sets.mapM fun set => trying node (forSet set)
     let fitting := (sets.zip tried).filter fun (_, res) => !res.failed
     if !fitting.isEmpty then constrs := constrs.withSets (fitting.map (·.1))
     let chosen := ((fitting.map (·.1)).head?).getD ((sets.head?).getD {})
     pure {failed := (<- forSet chosen).failed, constrs := tried.flatMap (·.constrs)}
   if res.failed then
    failed := true
    score := score + 1
   specConstrs := res.constrs
  | _, _ =>
   if let some spec := parSpec then
    if !sawArgs || !sawKwargs then
     if !draft then flag .callIssue "sigArgsGone" site [<- printTy spec]
     failed := true
     score := score + 1
  let ret <- Evals.inferRet ty (some {site, args := matched})
  draft := draft || ret.draft
  let retTy := if hit.isEmpty then ret.ty else ret.ty.setConds hit
  let exempt := exemptVars (<- univ) ty retTy
  let mut specd <- solve retTy constrs
   {fillUnsolved := some {scopes := ty.scopeIds, exempt, tupCls := <- tupCls?
                          eliminatesInUnions := !retTy.isRoutine}}
  specd := specd.addConds conds {skipBoundVars := true}
  for other in specConstrs do
   specd <- solve specd other
   constrs <- applyToConstrs constrs (<- solveConstrs other)
  if specd.isUnpCls then specd := specd.withCls ({· with isUnp := false})
  specd <- rescopeCallable site specd (<- tyVarScopes site)
  if let some self := selfTy then selfTy := <- solve self constrs
  return ({argErrs := failed, argResults := results.toList, anyOrUnkArg := anyArg
           retTy := specd, draft, initSelfTy := selfTy, score
           ovlsUsed := if failed then [] else [ty]}, constrs)
where
 specSigIn (fuel : Nat) (site : Node) (args : List Arg) (spec : Ty) (set : ConstrSet) : Eval SpecRes := do
  let lining <- lineUpArgs site args (((<- solveSet set).get? spec.var).getD spec).toParSpecVal
  if lining.failed then
   touchArgs args
   return {failed := true, constrs := [{}]}
  if let some own := Ty.trailSig? lining.ovl.fn then
   if lining.ovl.dropTrailSig.fn.pars.isEmpty && own.isSame spec then
    let mut argsCount := 0
    let mut kwargsCount := 0
    let mut failed := false
    let mut place := none
    for arg in args do
     let ty := (<- tyOfArg arg).ty
     match arg.cat with
     | .unpList => if spec.fitsParSpecArgs ty then argsCount := argsCount + 1
     | .unpDict => if spec.fitsParSpecKwargs ty then kwargsCount := kwargsCount + 1
     | .simple =>
      place := place.or arg.val
      failed := true
    if failed || argsCount != 1 || kwargsCount != 1 then
     flag .callIssue "sigArgsGone" (place.getD site) [<- printTy own]
     return {failed := true, constrs := [{}]}
    return {failed := false, constrs := [{}]}
  let (res, constrs) <- checkArgTysIn fuel site lining {} false
  pure {failed := res.argErrs, constrs := [constrs]}

variable (skipUnk : Bool)
def checkArgTys := checkArgTysIn maxTyDepth site lining constrs skipUnk

def checkWant (want retTy : Ty) : Eval (CallRes × Constrs) := do
 let live <- tyVarScopes site
 let mut want := want
 let mut flags := {populateWant := true, retainLits := (<- univ).containsLit want true}
 if retTy.isObj && want.isObj && !retTy.isSame want then
  let (fits, constrs) <- constrained {} (expectTy retTy want live site.start)
  if fits then
   want <- solve ((<- univ).selfSpec retTy true) constrs
    {fillUnsolved := some {scopes := retTy.scopeIds, useUnk := true, tupCls := <- tupCls?}}
   flags := {flags with skipPopulateUnk := true}
 want := (<- univ).unifyVarsOutside live site.start want
 let (_, constrs) <- constrained start (assign retTy want flags)
 checkArgTys site lining constrs skipUnk

def checkInCtx (opts : CallOpts) : Eval (CallRes × Constrs) := do
 let plain := checkArgTys site lining constrs opts.skipUnkCheck
 let retTy <- if let some ty := opts.want.bind (·.retOverride) then pure ty else effRet lining.ovl
 let some ctx := opts.want | plain
 if !(<- univ).needsSpec retTy then return <- plain
 let try_ want := do
  let (res, constrs) <- checkWant site lining constrs true want retTy
  match res.argErrs, res.retTy with
  | false, some hit =>
   let ret <- if let some ty := ctx.retOverride then solve ty constrs else pure hit
   if !(<- canAssign want ret) then return 0
   let some hit := (<- univ).findAnyOrUnk? hit true | pure 3
   return if hit.isAny then 2 else 1
  | _, _ => pure 0
 let chosen <- trying (<- speculNode site) do
  let mut best : Option (Ty × Nat) := none
  if ctx.ty.isUnion then
   for part in (<- univ).sortTys ctx.ty.subtys do
    if best.all (·.2 < 3) then
     let score <- try_ part
     if score > 0 && best.all (·.2 < score) then best := (part, score)
  if best.all (·.2 < 3) then
   let score <- try_ ctx.ty
   if score > 0 && best.all (·.2 < score) then best := (ctx.ty, score)
  pure (best.map (·.1))
 let some want := chosen | plain
 if want.isAnyLike || want.isNever then plain
 else checkWant site lining constrs opts.skipUnkCheck want retTy

def validateArgs (args : List Arg) (callee : Typed) (constrs : Constrs?) (opts : CallOpts) :
  Eval (CallRes × Constrs?) := do
 let lining <- lineUpArgs site args callee
 if lining.failed then
  touchArgs args
  let possible := ((<- univ).effRet? callee.ty.fn).filter (!·.isAnyLike)
  return ({retTy := possible.map fun ty => {form := .unk false ty}, argErrs := true}, constrs)
 let (res, changed) <- checkInCtx site lining (constrs.getD {}) opts
 pure (res, constrs.map fun _ => changed)

end TypeChecker.Infer
