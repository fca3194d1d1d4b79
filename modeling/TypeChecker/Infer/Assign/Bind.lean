import TypeChecker.Infer.Assign.Variable
import TypeChecker.Types.Tuple

/-! Binding methods to the objects and classes through which they are reached. -/

namespace TypeChecker.Infer
open Match
variable [Evals] (ty dest src : Ty) (flags : AssignFlags) (depth : Nat)
def inferReturns : Act := do
 if ty.isFn then discard <| effRet ty
 else if ty.isOvld then
  ty.ovls.forM fun ovl => discard <| effRet ovl
  let some impl := ty.impl? | pure ()
  if impl.isFn then discard <| effRet impl

def bindSig (base meth : Ty) (first : Ty?) (strip : Bool) (depth : Nat) : Match Ty? := do
 let data := meth.fn
 let methName := if data.name == "" then "<anonymous>" else data.name
 let checkFirst first := do
  match data.pars with
  | [] =>
   noteBelow "bindParGone" [methName]
   pure none
  | par :: _ =>
   let ty := (data.parTy? 0).getD .unk
   let clash parName := note "bindTyBad" [methName, printTy first, parName]
   let u <- univ
   let isProto ty := ty.isObj && (u.flags ty).proto
   if ty.isTyVar && ty.bound?.any isProto then
    return some (.setTy {} ty (if ty.isInsta then first.toInst else first))
   below do
    if ty.isRoutine && isProto first then
     clash (if par.nameText == "" then "__p0" else par.nameText)
     return none
    let (fits, constrs) <- withConstrs (some {}) <| below (assign ty first {allowUnspecifiedTyArgs := true} depth)
    if !fits && par.nameText != "" && !par.isNameSynth && par.isTyDecl then
     clash par.nameText
     return none
    pure constrs
 let constrs <- if let some first := first then checkFirst first else pure (some {})
 let some constrs := constrs | pure none
 let _ <- effRet meth
 let specd <- solve meth constrs
 return (if specd.isFn then some specd else specd.ovls.head?).map (·.bindFn strip base)

def bindMeth (base : Ty?) (meth : Ty) (memCls : Ty? := none) (ctorAsClsMeth : Bool := false) (self : Ty? := none)
  (depth : Nat := 0) : Match Ty? :=
 meth.mapSigsM fun sig => do
  let data := sig.fn
  let some base := base | return sig.bindFn true
  let u <- univ
  let baseCls := if base.isClsObj then base else base.clsObj
  if data.strippedFirst.isSome then return sig
  if data.isInstMeth then
   if u.isInstaMcls base then return sig
   let obj := if base.isObj then base else (u.specDflt base).clsInst
   return <- bindSig base sig (self.getD obj) (base.isObj || memCls.any u.isInstaMcls) depth
  if data.flags.clsMeth || (ctorAsClsMeth && data.flags.ctorMeth) then
   return <- bindSig baseCls sig (self.elim baseCls (·.toInsta)) true depth
  if data.flags.staticMeth then return <- bindSig baseCls sig none false depth
  pure sig

def propTy? := do
 if !(<- flagsOf ty).prop then return none
 let some getter := ty.cls.getter | pure none
 some <$> effRet getter.meth

def assignProp (src destCls srcCls : Ty) (self : Option Sol) (depth : Nat) : Fits := do
 let srcObj := if srcCls.isCls then some srcCls.clsInst else none
 let accessors := [(dest.cls.getter, src.cls.getter, (say "goneGetter")),
  (dest.cls.setter, src.cls.setter, (say "goneSetter")),
  (dest.cls.deleter, src.cls.deleter, (say "goneDel"))]
 accessors.foldlM (fun fits (goal, given, missing) => do
  match goal.map (·.meth), given.map (·.meth) with
  | none, _ => pure fits
  | some _, none =>
   noteMsg (pure missing)
   pure false
  | some goal, some given =>
   inferReturns given
   inferReturns goal
   let u <- univ
   let goal := if let some sol := self then u.applySol goal sol else goal
   let boundGoal <- below (bindMeth destCls.clsInst goal none false none depth)
   let boundGiven <- below (bindMeth srcObj given none false none depth)
   return (<- assign (boundGoal.getD goal) (boundGiven.getD given) {} depth) && fits) true

def noteTupSizes (lined : Tup.Lined) := noteMsg do
 let isOpen args := args.any fun arg => arg.isUnb || arg.ty.isTupVar
 let want := lined.dest.length
 let got := lined.src.length.repr
 return match isOpen lined.src, isOpen lined.dest with
  | true, true => say "tupSizeOpenSrcDest" [(toString ((want : Int) - 1))]
  | true, false => say "tupSizeOpenSrc" [want.repr]
  | false, true => say "tupSizeBadOpenDest" [(toString ((want : Int) - 1)), got]
  | false, false => say "tupSizeBad" [want.repr, got]

def assignTup : Fits := do
 let (lined, isLined) := Tup.line (<- tupCls?) dest.tupArgs src.tupArgs flags.contra
 if !isLined then
  noteTupSizes lined
  return false
 let misfit <- Tup.firstMisfit (fun idx dest src => below do
  let fits <- below (assign dest src flags depth)
  if !fits then note "tupEntryTyBad" [(idx + 1).repr]
  pure fits) 0 (lined.dest.zip lined.src)
 pure misfit.isNone

def varianceNote : Variance -> String
 | .covar => "tyVarIsCo"
 | .contra => "tyVarIsContra"
 | _ => "tyVarIsInv"

def varianceHint? (idx : Nat) : String? :=
 if ty.isNamed "dict" && idx == 1 then say "invTipDict"
 else if ty.isNamed "list" then say "invTipList"
 else if ty.isNamed "set" then say "invTipSet"
 else none

def assignTyArg (par : Ty?) (assumed : Option Variance) (destArg srcArg : Ty) (idx : Nat)
  (isFirst sameCls : Bool) (flags : AssignFlags) (depth : Nat) : Fits := do
 let variance := assumed.getD (par.elim .covar (·.var.variance))
 let flags := match variance with
  | .covar => {flags with retainLits := true}
  | .contra => {flags with contra := true, retainLits := true}
  | _ => {flags with invar := true, retainLits := true}
 let (fits, notes) <- apart <|
  if variance == .contra then assign srcArg destArg flags depth else assign destArg srcArg flags depth
 if fits || dest.isPseudo then return true
 match par with
 | none => attach notes
 | some par => below do
  noteMsg do
   let (srcTy, destTy) <- printPair srcArg destArg
   return say (varianceNote variance) [par.var.readableName, srcTy, destTy]
  if variance matches .covar | .contra then attach notes
  if isFirst && sameCls then
   let some hint := varianceHint? dest idx | pure ()
   noteMsg (pure hint)
 pure false

def assignTyArgs : Fits := do
 Evals.inferVariance dest
 let u <- univ
 let assumed := ((<- getThe World).selfAssignments.find? fun (ty, _) => ty.sameCls dest).map (·.2)
 match dest.tyArgs?, src.tyArgs? with
 | some destArgs, some srcArgs =>
  let isTup := u.isTupCls dest
  let destArgs := if isTup then dest.tupArgs.map (·.ty) else destArgs
  let srcArgs := if isTup then src.tupArgs.map (·.ty) else srcArgs
  let pars := u.tyPars dest
  srcArgs.zipIdx.foldlM (fun isCompat (srcArg, idx) => do
   let place := if destArgs.length <= idx then destArgs.length - 1 else idx
   let destArg := destArgs.getD place .unk
   let fits <- assignTyArg dest pars[place]? assumed destArg srcArg idx isCompat (dest.sameCls src) flags depth
   return isCompat && fits) true
 | _, _ => pure true

end TypeChecker.Infer
