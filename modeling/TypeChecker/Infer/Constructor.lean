import TypeChecker.Infer.Call.Args

/-! Making instances of classes: by the call method of the metaclass, by `__new__` and by `__init__`, each of
which may decide what is made; and the functions that classes are when they are called. -/

namespace TypeChecker.Infer
variable [Evals] (site : Node) (ty : Ty) (skipObj : Bool := true)
def newMeth :=
 boundWithNotes site ty "__new__" {}
  {skipClsMems := true, skipOverride := true, ctorAsClsMeth := true, skipObjBase := skipObj}

def initMeth :=
 boundWithNotes site ty "__init__" {} {skipInstMems := true, skipOverride := true, skipObjBase := skipObj}

def mclsCall? := boundMem? site ty "__call__" {skipInstMems := true, skipTyBase := true, skipOverride := true}

def endsAtMcls (ret : Ty) := do
 if !(<- canAssign ty.toInst ret) || ret.isNever || ret.subtys.any (·.isAny) then return true
 pure (<- flagsOf ty).enum

def skipsInit (ret : Ty) := do
 let ret <- firm ret
 let u <- univ
 return ret.subtys.any fun part => !part.isUnk && !(part.isObj && u.isDerivedFrom part.clsObj ty)

def isDfltNew (u : Univ) (meth : Ty) :=
 meth.isFn && if let [.argsList, .kwargsDict] := (meth.fn.pars.map (·.cat) : List ParCat) then
   (meth.fn.declRet.or ((meth.fn.specd.bind (·.retTy)).or
    (u.inferredRet? meth.fn))).any fun ty => ty.isTyVar && ty.isSelfVar
  else false

variable (ty : Ty)
def constructedTy (want : Want?) (constrs : Constrs) : Eval Ty := do
 let keeping := <- unsolvedIn []
 if ((<- univ).tyPars ty).isEmpty || ty.tyArgs?.isSome then return <- solve ty.clsInst constrs keeping
 if let some want := want then
  let hit <- want.ty.mapM fun part => do
   let specd <- solve ty.clsInst constrs keeping
   return if !(<- canAssign part specd) then none else if part.isAny then part else specd
  if !hit.isNever then return hit
 pure (<- solve ty constrs (<- unsolvedIn ty.scopeIds)).clsInst

variable (args : List Arg) (ty : Ty) (opts : CallOpts)
def checkNew (meth : Typed) (isTrial : Bool) : Eval CallRes := do
 let call (start : Constrs) := do
  let (res, constrs) <- Evals.checkCall site args meth start opts 0
  pure (res, constrs.getD start)
 let (res, constrs) <- trying (if isTrial then site else none) (call {}) meth.ty
 let constrs <- if res.argErrs then Prod.snd <$> call constrs else pure constrs
 let retTy <- if let some ret := if res.argErrs then none else res.retTy then
   if ret.isTupObj && ret.tupArgs?.isNone then
    let ret := if let [only] := ret.tyArgs then ret.specTup [{ty := only, isUnb := true}] else ret
    pure (match opts.want.bind fun want =>
      if want.ty.isTupObj then want.ty.tupArgs? else none with
     | some args => ret.specTup args
     | none => ret)
   else pure ret
  else constructedTy ty opts.want constrs
 return {argErrs := res.argErrs, retTy, draft := res.draft
         ovlsUsed := if res.argErrs then [] else res.ovlsUsed}

def checkInit (meth : Ty) : Eval CallRes := do
 let (_, constrs) <- Match.constrained {} (do if ty.tyArgs?.isSome then discard <| expectTy ty ty none)
 let override := (<- univ).selfSpec ty
 let (res, hit) <- Evals.checkCall site args meth constrs
  {opts with want := opts.want.map ({· with retOverride := override})} 0
 let adjusted := if let some self := res.initSelfTy then
   if self.isObj && self.sameCls ty then self.clsObj else ty
  else ty
 return {argErrs := res.argErrs, draft := res.draft, retTy := (<- constructedTy adjusted none (hit.getD constrs))
         ovlsUsed := if res.argErrs then [] else res.ovlsUsed}

def checkNewAndInit (newRes : Typed?) : Eval CallRes := do
 let tried <- newRes.mapM (checkNew site args ty opts · true)
 let mut failed := tried.any (·.argErrs)
 let mut draft := tried.any (·.draft)
 let mut used := tried.elim [] (·.ovlsUsed)
 let u <- univ
 let made <- match tried.bind (·.retTy), newRes with
  | some ret, some meth =>
   if isDfltNew u meth.ty then pure ty.clsInst
   else if ret.isUnk || meth.ty.isAny then pure (u.applySol ty.clsInst {} (<- unsolvedIn ty.scopeIds))
   else pure ret
  | _, _ => pure ty.clsInst
 let mut hasInit := failed
 let mut validated := false
 let mut retTy := none
 let mut opts := opts
 if !made.isNever && made.isObj then
  if !(<- skipsInit ty made) then
   let bindTo := if made.tyArgs.any (·.isUnk) then ty.clsInst else made
   let (meth, notes) <- initMeth site bindTo
   hasInit := meth.isSome
   if let some meth := meth then
    if meth.tyErrs then report .general notes.print site
    let res <- checkInit site args bindTo opts meth.ty
    failed := failed || res.argErrs
    used := used ++ res.ovlsUsed
    draft := draft || res.draft
    retTy := res.retTy
    validated := true
    opts := {opts with skipUnkCheck := true}
 if let (false, some meth) := (validated, newRes) then
  if !(<- isSpecul site) then discard <| checkNew site args ty opts meth false
  retTy := made
 if newRes.isNone && !hasInit then
  let (meth, _) <- newMeth site ty false
  if let some meth := meth.filter (·.ty.isRoutine) then
   let res <- checkNew site args ty {opts with skipUnkCheck := false} (.ofTy meth.ty) false
   failed := failed || res.argErrs
   used := used ++ res.ovlsUsed
   draft := draft || res.draft
   retTy := res.retTy.getD .unk
  else retTy := ty.toInst
 pure {argErrs := failed, retTy, draft, ovlsUsed := used}

def checkMclsCall (isTrial : Bool) : Eval (Option CallRes) := do
 let some meth <- mclsCall? site ty | pure none
 let (res, _) <- trying (if isTrial then site else none) (Evals.checkCall site args meth none opts 0)
 if !res.argErrs then
  if meth.ty.isFn && meth.ty.fn.declRet.isNone then return none
  if res.retTy.any (·.isUnk) then return none
 pure res

/-! Functions that classes are when they are called. -/

def methFlags : MemFlags := {skipInstMems := true, skipOverride := true, skipObjBase := true}

def convertSigs (change : Ty -> Eval Ty?) := do
 if ty.isFn then return <- change ty
 if !ty.isOvld then return none
 match <- ty.ovls.filterMapM change with
 | [] => pure none
 | [only] => pure only
 | several => return some (.ofOvls several)

def fnOfMcls? (depth : Nat) : Eval Ty? := do
 let some mcls := (<- infoOf ty).metaTy.filter (·.isCls) | pure none
 let some mem <- clsMem? mcls "__call__" {skipInstMems := true, skipTyBase := true, skipOverride := true} | pure none
 let meth <- tyOfMem mem
 if !meth.isRoutine then return none
 let some bound <- Match.plain (bindMeth ty meth (some mem.clsTy |>.filter (·.isClsObj)) false ty depth) | pure none
 let decides <- bound.sigs.anyM fun sig => do
  match sig.fn.declRet, (<- univ).effRet? sig.fn with
  | some _, some ret => endsAtMcls ty ret
  | _, _ => pure false
 return if decides then bound else none

variable (self : Ty?) (depth : Nat)
def fnOfNew? : Eval Ty? := do
 let some mem <- clsMem? ty "__new__" methFlags | pure none
 let owner := some mem.clsTy |>.filter (·.isClsObj)
 convertSigs (<- tyOfMem mem) fun meth => do
  let u <- univ
  let usesVars := (Ty.typedPars meth.fn).drop 1 |>.any fun (par, parTy) =>
   par.name.isSome && (u.tyVarsOf parTy).any (·.var.scopeId == ty.scopeId?)
  let bound <- Match.plain (bindMeth (some (if usesVars then u.selfSpec ty else ty)) meth owner true self depth)
  return bound.map fun bound => bound.withFn fun data => {data with
   scopeId := meth.fn.scopeId
   flags := {data.flags with staticMeth := false, ctorMeth := false}
   ctorScopeId := ty.scopeId?}

def fnOfInit? : Eval Ty? := do
 let some mem <- clsMem? ty "__init__" methFlags | pure none
 let owner := some mem.clsTy |>.filter (·.isClsObj)
 let obj := ty.clsInst
 convertSigs (<- tyOfMem mem) fun meth => do
  let some bound <- Match.plain (bindMeth obj meth owner false self depth) | pure none
  let u <- univ
  let retTy <- if let some self := self then pure self
   else
    if (u.tyPars obj).isEmpty || obj.tyArgs?.isSome then pure obj else do
     let vars := (Ty.typedPars bound.fn).foldl (fun vars (_, parTy) =>
      Univ.addUniqueVars vars (u.tyVarsOf parTy)) []
     let constrs := vars.foldl (fun constrs tyVar => constrs.setTy tyVar tyVar) ({} : Constrs)
     solve obj constrs (<- unsolvedIn obj.scopeIds)
  pure (bound.withFn fun data => {data with
   declRet := data.strippedFirst.getD retTy
   specd := data.specd.map ({· with retTy := retTy})
   flags := {data.flags with staticMeth := false}
   ctorScopeId := ty.scopeId?})

def ctorFn : Eval Ty? := do
 if let some fn <- fnOfMcls? ty depth then return fn
 let fromNew <- fnOfNew? ty self depth
 if let some fn := fromNew then
  if <- fn.sigs.anyM fun sig => do
    if let some ret := (<- univ).effRet? sig.fn then skipsInit ty ret
    else return false then
   return fn
 let u <- univ
 match fromNew, <- fnOfInit? ty self depth with
 | some new, some init => return some (if isDfltNew u new then init else .combine [init, new])
 | some only, none | none, some only => pure only
 | none, none =>
  return some (.ofFn {Ty.synth "__new__" with
   declRet := ty.clsInst
   pars := if ty.cls.orSub || (u.flags ty).proto then Ty.dfltPars else []})

end TypeChecker.Infer
