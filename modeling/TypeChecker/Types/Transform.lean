import TypeChecker.Types.Universe

/-! Replacing the type variables in a type. A transformer says what becomes of a variable; the walk rebuilds only
those parts of a type in which something changes. Solutions are put into types in this way, and defaults where nothing
was found. -/

namespace TypeChecker

structure SolSet where
 ents : ByName Ty? := []

namespace SolSet
variable (set : SolSet) (tyVar : TyVarData)
def get? := (set.ents.lookup tyVar.key).join
def contains := (set.ents.lookup tyVar.key).isSome

def setTy (ty : Ty?) : SolSet :=
 let key := tyVar.key
 if set.ents.any (·.1 == key) then {ents := set.ents.map fun ent => if ent.1 == key then (key, ty) else ent}
 else {ents := set.ents ++ [(key, ty)]}

def byName? (name : String) :=
 set.ents.foldl (fun hit (key, ty) => if key.startsWith (name ++ ".") && ty.isSome then ty else hit) none

end SolSet

structure Sol where
 sets : List SolSet := [{}]

namespace Sol
variable (sol : Sol)
def isEmpty := sol.sets.all (·.ents.isEmpty)
def main := sol.sets.headD {}
def setAt (idx : Nat) := sol.sets.getD idx {}
def setTy (tyVar ty : Ty) : Sol := {sets := sol.sets.map (·.setTy tyVar.var ty)}

def ofArgs (tyPars : Tys) (tyArgs : Option Tys) : Sol :=
 if let some tyArgs := tyArgs then (tyPars.zip tyArgs).foldl (fun sol (par, arg) => sol.setTy par arg) {} else {}

end Sol

def Univ.solOf (u : Univ) (ty : Ty) : Sol :=
 let tyArgs := if let some args := ty.tupArgs? then [(ty.specTup args ty.cls.hasOwnArgs true).toInst] else ty.tyArgs?
 .ofArgs (u.tyPars ty) tyArgs

namespace Ty
variable (ty : Ty)
def dropTrailSig (stripSep : Bool := false) : Ty :=
 let data := ty.fn
 let count := data.pars.length
 if let last :: beforeLast :: before := data.pars.reverse then
  let argsTy := ty.parTy (count - 2)
  let kwargsTy := ty.parTy (count - 1)
  if beforeLast.cat == .argsList && last.cat == .kwargsDict && argsTy.isSigVar &&
    kwargsTy.isSigVar && argsTy.isSame kwargsTy then
   let dropped := if before.head?.any Par.isPosSep && (count == 3 || stripSep) then 3 else 2
   ty.withFn fun data => {data with
    pars := data.pars.take (count - dropped)
    specd := data.specd.map fun tys => {tys with
     pars := tys.pars.take (tys.pars.length - dropped)
     dflts := tys.dflts.map fun dflts => dflts.take (dflts.length - dropped)}}
  else ty
 else ty

def toParSpecVal : Ty :=
 match ty.form with
 | .tyVar data =>
  if data.shared.kind == .parSpec then
   ofFn {flags := {sigVal := true}, pars := sigVariadics ty, scopeId := data.scopeId}
  else unkParSpec
 | .fn data =>
  if data.flags.sigVal then ty
  else ofFn {
   flags := {data.flags with sigVal := true}
   depr := data.depr
   pars := data.pars.mapIdx fun idx par => {par with
    ty := (data.parTy? idx).getD par.ty
    dfltTy := data.parDflt? idx}
   scopeId := data.scopeId, ctorScopeId := data.ctorScopeId}
 | _ => unkParSpec

def simplifySig :=
 if let some parSpec := trailSig? ty.fn then
  match ty.dropTrailSig.fn.pars with
  | [] => parSpec
  | [only] => if only.isPosSep then parSpec else ty
  | _ => ty
 else ty

def applyParSpecVal (val : Ty) :=
 let valData := val.fn
 let parSpec := (trailSig? ty.fn).getD unk
 (ty.dropTrailSig (valData.pars.any Par.isPosSep)).withFn fun data =>
  let added := valData.pars.mapIdx fun idx par => {par with
   ty := (valData.parTy? idx).getD par.ty
   flags := {nameSynth := par.flags.nameSynth, tyDecl := true}
   dfltTy := valData.parDflt? idx}
  let methFlags := if ty.fn.methCls.isSome then ty.fn.flags else valData.flags
  {data with
  tyPars := data.tyPars.filter (!·.isSame parSpec)
  pars := data.pars ++ added
  depr := data.depr <|> valData.depr
  flags := {
   ovld := ty.fn.flags.ovld, sigVal := ty.fn.flags.sigVal
   clsMeth := methFlags.clsMeth, staticMeth := methFlags.staticMeth
   ctorMeth := methFlags.ctorMeth
   gradual := valData.flags.gradual, synth := true}
  decl := none
  specd := data.specd.map fun tys => {tys with
   pars := tys.pars ++ added.map (·.ty)
   dflts := tys.dflts.map (· ++ added.map (·.dfltTy))}
  ctorScopeId := valData.ctorScopeId
  methCls := data.methCls <|> valData.methCls}

def hasDfltPars (data : FnData) :=
 let named := (typedPars data).filter fun (par, _) => !par.nameText.isEmpty
 named.all (fun (par, ty) => par.cat != .simple && ty.isAnyLike) &&
  named.any (·.1.cat == .argsList) && named.any (·.1.cat == .kwargsDict)

end Ty

/-! Which types depend on type variables. -/

structure RequiresOpts where
 (ignorePseudo ignoreSelf ignoreAutoArgs : Bool := false)

namespace Univ
variable (u : Univ)
def requiresSpecIn (opts : RequiresOpts) : Nat -> Ty -> Bool
 | 0, _ => false
 | fuel + 1, ty =>
  let requires := requiresSpecIn opts fuel
  !ty.conds.isEmpty || match ty.form with
  | .cls data =>
   !(opts.ignorePseudo && data.ref.isPseudo) && !(opts.ignoreAutoArgs && !data.hasOwnArgs) &&
    ((data.tupArgs.getD []).any (requires ·.ty) ||
     if let some args := data.tyArgs then args.any requires else !(u.tyPars ty).isEmpty)
  | .fn data => (Ty.typedPars data).any (fun (_, ty) => requires ty) || (u.effRet? data).any requires
  | .ovld ovls impl => ovls.any requires || impl.any requires
  | .union mems _ _ => mems.any requires
  | .tyVar data =>
   if data.shared.recAlias.isNone then !(data.shared.isSelf && opts.ignoreSelf)
   else ((ty.aliasUse?.bind (·.tyArgs)).getD []).any requires
  | _ => false

def needsSpec (ty : Ty) (opts : RequiresOpts := {}) := u.requiresSpecIn opts (maxTyDepth + 1) ty

end Univ
namespace Ty

/-- How deep classes are nested in the arguments of a class. -/
def boxDepthIn : Nat -> Ty -> Nat
 | 0, _ => 1
 | fuel + 1, ty =>
  let deepest tys := 1 + (tys.flatMap subtys).foldl (fun depth mem => max depth (boxDepthIn fuel mem)) 0
  if !ty.isObj then 0
  else match ty.tupArgs?, ty.tyArgs? with
   | some args, _ => deepest (args.map (·.ty))
   | none, some args => deepest args
   | none, none => 0

def boxDepth (ty : Ty) := boxDepthIn (maxTyDepth + 1) ty

end Ty

/-- A signature and the places of the calls that it was seen in. -/
structure SigUse where
 ty : Ty
 offsets : List Nat

/-- What a walk over a type collects. -/
structure MorphState where
 sigs : List SigUse := []
 invalidVars : Strings := []

abbrev MorphM := StateM MorphState

structure MorphEnv where
 pendingScopes : List TyScopeId := []
 solvesDflt := false
 activeSet : Nat? := none
 /-- The functions around; one that returns itself is not walked again. -/
 pendingFns : Tys := []

/-- What becomes of the parts of a type. Each answer is absent where nothing changes; the walk is
handed in for parts that have to be walked again. -/
structure Morpher where
 onTyVar : (MorphEnv -> Ty -> MorphM Ty?) -> MorphEnv -> Ty -> MorphM Ty? := fun _ _ _ => pure none
 onTupVar : MorphEnv -> Ty -> Option (List TyTupArg) := fun _ _ => none
 onMem : MorphEnv -> Ty -> Ty -> Ty? := fun _ _ new => new
 onConds : MorphEnv -> Ty -> Ty? := fun _ _ => none
 /-- The number of ways in which signatures are solved. -/
 setCount := 1
 /-- Replaces the walk over a function, within overloads if it belongs to some. -/
 onFn : Option (Ty? -> Ty -> MorphM (Option Ty?)) := none
 (skipsClasses skipsAliases : Bool := false)

namespace Univ
variable (u : Univ) (morpher : Morpher)
section
variable (recur : MorphEnv -> Ty -> MorphM Ty?) (env : MorphEnv)
def recurList (tys : Tys) : MorphM (Option Tys) := do
 let changed <- tys.mapM (recur env)
 return if changed.all Option.isNone then none else (tys.zip changed).map fun (ty, new) => new.getD ty

variable (within : Ty?) (ty : Ty)
def morphVar : MorphM Ty? := do
 let data := ty.var
 if data.shared.recAlias.isSome then
  let some {shared, tyArgs := some args} := ty.aliasUse? | pure none
  return (<- recurList recur env args).map fun args => ty.setAliasUse (some {shared, tyArgs := args})
 else if data.scopeId.any env.pendingScopes.contains then return none
 else
  let access := if ty.isSigVar then data.access else none
  let bare := if access.isSome then ty.setAccess none else ty
  let hit <- morpher.onTyVar recur env bare
  let repl := hit.getD bare
  let repl := if ty.isSigVar && hit.isSome then repl.toParSpecVal.simplifySig else repl
  let repl :=
   if access.isSome then
    if repl.isSigVar then repl.setAccess access else .unk
   else repl
  let repl := if ty.isTupVar && data.isInUnion then repl.expandUnpTup else repl
  let some scope := data.scopeId | return if hit.isNone then none else repl
  if let some new <- recur {env with pendingScopes := scope :: env.pendingScopes} repl then return new
  else return if hit.isNone then none else repl

def morphUnion : MorphM Ty? := do
 let changed <- ty.subtys.mapM fun mem => do
  let new <- recur env mem
  let new := new.map fun new =>
   if mem.isTupVar && !new.isTupVar then .combine (new.subtys.map .expandUnpTup) else new
  let some res := morpher.onMem env mem (new.getD mem) | pure (true, none)
  pure (new.isSome || !res.isIdentical mem, some res)
 if changed.any (·.1) then
  let joined := .combine (changed.filterMap (·.2))
  let joined := if let some use := ty.aliasUse? then joined.setAliasUse use else joined
  return some (if joined.isNever then .unk else joined)
 else pure none

/-- Tuples that are nested deeper are left alone. -/
def maxTupDepth := 10

def morphTupArgs (args : List TyTupArg) : MorphM (Bool × List TyTupArg) := do
 let parts <- args.mapM fun arg => do
  let changed <- recur env arg.ty
  let new := changed.getD arg.ty
  match (arg.ty.isUnpTupVar && new.isTupObj) || new.isUnpCls, new.tupArgs? with
  | true, some inner => pure (changed.isSome, inner)
  | _, _ =>
   let isEmpty := arg.isUnb && arg.ty.isTyVar && new.isNever && args.length == 1
   pure (changed.isSome, if isEmpty then [] else [{arg with ty := new}])
 pure (parts.any (·.1), parts.flatMap (·.2))

def morphCls : MorphM Ty? := do
 let pars := u.tyPars ty
 if morpher.skipsClasses || (pars.isEmpty && !u.isSpec ty && !ty.isNamed "type") then return none
 let isTup := u.isTupCls ty
 if isTup && maxTupDepth < ty.boxDepth then return none
 let tup? <-
  if !isTup then pure none
  else match ty.tupArgs?, pars with
   | some args, _ => do
    let (changed, args) <- morphTupArgs recur env args
    pure (changed, true, args)
   | none, first :: _ =>
    if let some args := morpher.onTupVar env first then pure (true, true, args)
    else do pure (some (true, false, [{ty := (<- recur env first).getD first, isUnb := true}]))
   | none, [] => pure none
 if let some (changed, isExplicit, args@(_ :: _)) := tup? then
  return if !changed then none else ty.spec [Ty.tupArgsUnion args] isExplicit false args
 else
  let old := ty.tyArgs?.getD pars
  let new <- old.mapM fun arg => do
   let changed <- recur env arg
   return changed.map fun new => if arg.isTupVar && arg.var.isInUnion then new.expandUnpTup else new
  if new.all Option.isNone && !(tup?.any (·.1)) then return none
  pure (ty.spec ((old.zip new).map fun (old, new) => new.getD old)
   (some (ty.tyArgs?.isSome && (tup?.all (·.2.1)))) false (tup?.map (·.2.2)))

def unpackMany (data : FnData) (tys : SpecdTys Ty) (idx : Nat) (unp : List TyTupArg) :=
 let isUnb := unp.any (·.isUnb)
 let numbered pars := "__p" ++ pars.length.repr
 let step state ent :=
  let (pars, insertSep) := state
  let ((par, parTy), pos) := ent
  if pos == idx then
   (unp.foldl (fun pars arg => pars ++ [{
     cat := if arg.isUnb || arg.ty.isTupVar then .argsList else .simple
     ty := arg.ty, flags := {nameSynth := true, tyDecl := true}
     name := numbered pars}]) pars, !isUnb)
  else
   let insertSep := insertSep && !par.isKwSep && par.cat != .kwargsDict
   let inserts := par.cat == .simple && par.name.isSome && insertSep
   let pars := if inserts then pars ++ [Ty.kwSep] else pars
   let insertSep := insertSep && !inserts
   if par.cat != .simple || par.name.isSome || !(isUnb && idx < pos) then
    (pars ++ [{par with
     ty := parTy
     name := if par.name.isSome && par.isNameSynth then numbered pars else par.name
     dfltTy := data.parDflt? pos}], insertSep)
   else (pars, insertSep)
 let (pars, _) := ((data.pars.zip tys.pars).zipIdx).foldl step ([], false)
 {ty with form := .fn {flags := {data.flags with synth := true}, pars, declRet := tys.retTy}, props := none}

def morphSig (src : Ty) : MorphM Ty? := do
 let declared := u.effRet? src.fn
 let newRet <- if let some ty := declared then recur env ty else pure none
 let applied <- if let some parSpec := Ty.trailSig? src.fn then do
   let some new <- morpher.onTyVar recur env parSpec | pure none
   let val := new.toParSpecVal
   pure (if !val.fn.pars.isEmpty || !((Ty.trailSig? val.fn).any (parSpec.isSame ·)) then
    some ((src.applyParSpecVal val).withFn ({· with inferredRet := u.inferredRet? src.fn}))
   else none)
  else pure none
 let ty := applied.getD src
 let data := ty.fn
 let pars <- (Ty.typedPars data).mapIdxM fun idx (par, parTy) => do
  let new <- recur env parTy
  let dfltTy := data.parDflt? idx
  let newDflt <- if let some default := dfltTy then recur env default else pure none
  pure (par, parTy, new, dfltTy, newDflt)
 let renewed <- match data.specd.bind (·.retTy), u.inferredRet? data with
  | some _, some inferred => recur env inferred
  | _, _ => pure none
 let isChanged := renewed.isSome || newRet.isSome ||
  pars.any fun (_, _, new, _, newDflt) => new.isSome || newDflt.isSome
 let many := pars.findIdx? fun (par, parTy, _) => parTy.isTupVar && par.cat == .argsList
 let unp := many.bind fun idx => (pars[idx]?).bind fun (_, _, new, _) =>
  new.bind fun new => if new.isTupObj && new.cls.isUnp then new.tupArgs? else none
 let newBound <- if let some owner := data.boundTo then recur env owner else pure none
 let newBound := newBound.filter Ty.isCls
 let newStripped <- if let some first := data.strippedFirst then if first.isAnyLike then pure none else recur env first
  else pure none
 let ty := if let some owner := newBound then ty.bindFn false owner else ty
 let ty := if let some first := newStripped then ty.withFn ({· with strippedFirst := first}) else ty
 if !isChanged then return if applied.isSome || newBound.isSome || newStripped.isSome then some ty else none
 let dflts := pars.map fun (_, _, _, dfltTy, newDflt) => newDflt <|> dfltTy
 let tys := {
  pars := pars.map fun (_, parTy, new, _) => new.getD parTy
  dflts := if dflts.any Option.isSome then some dflts else none
  retTy := renewed <|> newRet <|> declared}
 match many, unp with
 | some idx, some unp => return unpackMany ty ty.fn tys idx unp
 | _, _ => return ty.withFn ({· with specd := tys})

/-- A signature that is solved in several ways becomes overloads. -/
def morphFn : MorphM Ty? := do
 let own <- if let some act := morpher.onFn then act within ty else pure none
 if let some res := own then pure res
 else if morpher.setCount <= 1 || env.activeSet.isSome then morphSig u morpher recur env ty
 else
  let results <- (List.range morpher.setCount).mapM fun idx => do
   return (<- morphSig u morpher recur {env with activeSet := some idx} ty).getD ty
  let ovls := (Ty.combine results).subtys.map fun ty => ty.withFn ({· with flags.ovld := true})
  let [only] := ovls | return some (.ofOvls ovls)
  return some only

end

def morphIn : Nat -> MorphEnv -> Ty -> MorphM Ty?
 | 0, _, _ => pure none
 | fuel + 1, env, given => do
  let recur := morphIn fuel
  let renamed <- if let some {shared, tyArgs := some args} := given.aliasUse? then
    if morpher.skipsAliases || (u.aliasAt shared.id).tyPars.isNone then pure none
    else
     pure ((<- recurList recur env args).map fun args => given.setAliasUse (some {shared, tyArgs := args}))
   else pure none
  let ty := renamed.getD given
  let conditioned := if ty.conds.isEmpty then none else morpher.onConds env ty
  let early := conditioned <|> renamed
  let ty := conditioned.getD ty
  if !u.needsSpec ty || ty.isAnyLike || ty.isNoneInst then return early
  if ty.isRoutine && env.pendingFns.any (·.isIdentical ty) then return early
  let env := if ty.isRoutine then {env with pendingFns := ty :: env.pendingFns} else env
  let res <- match ty.form with
   | .tyVar _ => morphVar morpher recur env ty
   | .union .. => morphUnion morpher recur env ty
   | .cls _ => morphCls u morpher recur env ty
   | .fn _ => morphFn u morpher recur env none ty
   | .ovld ovls impl => do
    let news <- ovls.mapM (morphFn u morpher recur env ty)
    let newImpl <- if let some impl := impl then recur env impl else pure none
    pure (if news.all Option.isNone && newImpl.isNone then none
     else Ty.ofOvls ((ovls.zip news).flatMap fun (old, new) => (new.getD old).sigs) (newImpl <|> impl))
   | _ => pure none
  return res <|> early

def morph (ty : Ty) := return (<- u.morphIn morpher (maxTyDepth + 1) {} ty).getD ty
def morphPure (ty : Ty) := ((u.morph morpher ty).run {}).1

def replaceVars (replace : Ty -> Ty?) (ty : Ty) := u.morphPure {onTyVar := fun _ _ tyVar => pure (replace tyVar)} ty

/-! The variables of a place seen from the inside and from the outside. -/

def bindVarsOf (scopes : Option (List TyScopeId)) (ty : Ty) :=
 if scopes.any List.isEmpty then ty
 else u.replaceVars (fun tyVar =>
  if tyVar.var.scopeId.any fun id => scopes.all (·.contains id) then tyVar.asBound else none) ty

def freeVarsOf (scopes : List TyScopeId) (ty : Ty) :=
 if scopes.isEmpty then ty
 else u.replaceVars (fun tyVar => tyVar.var.free.filter (·.var.scopeId.any scopes.contains)) ty

def unifyVarsOutside (live : List TyScopeId) (usageOffset : Nat?) (ty : Ty) :=
 u.replaceVars (fun tyVar =>
  let ids := tyVar.var.scopeId.toList ++ (tyVar.var.free.bind (·.var.scopeId)).toList
  if ids.any live.contains then none else tyVar.asUnificationVar usageOffset) ty

def noteInvalidVar (live : Tys) (tyVar : Ty) : MorphM Ty? := do
 let name := tyVar.shared.name
 let isLive := (live.find? (·.shared.name == name)).any (·.isSigVar == tyVar.isSigVar)
 modify fun state =>
  if isLive || state.invalidVars.contains name then state
  else {state with invalidVars := state.invalidVars ++ [name]}
 pure Ty.unk

def invalidDfltVars (tyVar : Ty) (live : Tys) :=
 tyVar.shared.default.elim [] fun default =>
  if tyVar.shared.isDfltGiven && u.needsSpec default then
   ((u.morph {onTyVar := fun _ _ => noteInvalidVar live} default).run {}).2.invalidVars
  else []

end Univ

/-- What becomes of variables without a solution. -/
structure ReplaceUnsolved where
 scopes : List TyScopeId
 tupCls : Ty? := none
 exempt : Tys := []
 useUnk := false
 eliminatesInUnions := false

structure ApplyOpts where
 tyCls : Ty? := none
 fillUnsolved : Option ReplaceUnsolved := none

namespace Ty

/-- What is known of a variable about which nothing is known. -/
def unkForVar (tyVar : Ty) (tupCls : Ty?) :=
 if tyVar.isSigVar then unkParSpec
 else match tyVar.isTupVar, tupCls with
  | true, some tup => (tup.specTup [{ty := unk, isUnb := true}] true true).clsInst
  | _, _ => unk

def selfVar (clsTy : Ty) (isCls : Bool := false) :=
 let bound := (clsTy.spec none false clsTy.cls.orSub).clsInst
 let name := "__type_of_self__"
 let shared := {id := 0, name, isSynth := true, isSelf := true, bound}
 let scopeId := clsTy.cls.ref.scopeId
 let made := {ofVar shared with
  form := .tyVar {shared, scopeId, scopeName := ""
                  scopedName := (TyVarForm.makeNameWithScope name (scopeId.getD .unification) "")}}
 if isCls then made.tyVarObj else made

def scopeId? (ty : Ty) :=
 match ty.form with
 | .cls data => data.ref.scopeId
 | .fn data | .tyVar data => data.scopeId
 | _ => none

def scopeIds (ty : Ty) := ty.scopeId?.toList ++ (if ty.isFn then ty.fn.ctorScopeId.toList else [])

end Ty
namespace Univ
variable (u : Univ) (ty : Ty)
def specUnk (tupCls : Ty? := none) :=
 let pars := u.tyPars ty
 if pars.isEmpty then ty
 else if ty.isTup then (ty.specTup [{ty := .unk, isUnb := true}] false).setOrSub ty.cls.orSub
 else ty.spec (pars.map (·.unkForVar tupCls)) false ty.cls.orSub

section
variable (sol : Sol) (opts : ApplyOpts) (specDflt : Ty -> Ty) (env : MorphEnv) (tyVar : Ty)
def replacesUnsolved :=
 env.pendingScopes.isEmpty && match tyVar.var.scopeId, opts.fillUnsolved with
  | some scope, some replace =>
   replace.scopes.contains scope && !(replace.exempt.any (·.isSame tyVar {ignoreMarks := true}))
  | _, _ => false

def isReplaceable := tyVar.var.scopeId.isSome && !tyVar.isBoundVar

def adaptSol (hit : Ty) :=
 let hit :=
  if tyVar.isInsta then
   if let some tyCls := opts.tyCls then
    if hit.isAnyLike && tyCls.isClsObj then tyCls.clsInst.spec [hit] else hit.toInsta false
   else hit.toInsta false
  else hit.map fun mem =>
   if mem.isObj then
    let mem := if mem.cls.orSub then mem else mem.clsObj.clsInst
    match mem.tyArgs?, opts.fillUnsolved with
    | none, some replace => if replace.useUnk then u.specUnk mem replace.tupCls else specDflt mem
    | _, _ => mem
   else mem
 if hit.isTupVar && tyVar.isTupVar && tyVar.var.isUnp then hit.unpackVar tyVar.var.isInUnion
 else if !hit.isTupVar && hit.isTyVar && tyVar.var.isUnp then hit.unpackVar
 else
  let hit := if !tyVar.isTupVar && hit.isObj && hit.cls.isUnp then hit.tupArgs?.elim hit .tupArgsUnion else hit
  if tyVar.isUnpTyVar && hit.isCls then hit.unpack else hit

def solvedVar (walk : MorphEnv -> Ty -> MorphM Ty?) (env : MorphEnv) (tyVar : Ty) : MorphM Ty? := do
 let set := sol.setAt (env.activeSet.getD 0)
 let shared := tyVar.shared
 let default := shared.default.getD .unk
 if env.solvesDflt && tyVar.var.scopeId.isNone then
  if let some hit := set.byName? shared.name then return hit
  else if shared.isDfltGiven then return (<- walk env default).getD default else return some .unk
 if !isReplaceable tyVar then return none
 let hit := (set.get? tyVar.var).map fun hit => if tyVar.isSigVar then hit else u.adaptSol opts specDflt tyVar hit
 if let some hit := hit then
  if tyVar.isSigVar || !hit.isTyVar || !hit.var.isUnification || opts.fillUnsolved.isNone then return hit
 if !replacesUnsolved opts env tyVar then return none
 let useUnk := opts.fillUnsolved.any (·.useUnk)
 if shared.isDfltGiven && !useUnk then return (<- walk {env with solvesDflt := true} default).getD default
 return tyVar.unkForVar (opts.fillUnsolved.bind (·.tupCls))

def solvedTupVar :=
 if isReplaceable tyVar then
  ((sol.setAt (env.activeSet.getD 0)).get? tyVar.var).bind fun val =>
   if val.isObj && val.isUnpCls then val.tupArgs? else none
 else if tyVar.shared.isDfltGiven then
  tyVar.shared.default.bind fun default => if default.isObj then default.tupArgs? else none
 else none

def solvedMem (old new : Ty) : Ty? :=
 if !(opts.fillUnsolved.any (·.eliminatesInUnions)) then new
 else
  let set := sol.setAt (env.activeSet.getD 0)
  if old.isTyVar then
   if !isReplaceable old || !replacesUnsolved opts env old then new
   else if (set.get? old.var).any fun hit => !hit.isTyVar || !hit.var.isUnification then new
   else if old.isIdentical new || new.isUnk then none
   else new
  else if old.conds.any fun cond => cond.tyVar.isUnification && (set.get? cond.tyVar).isNone then none
  else new

def solvedConds (ty : Ty) : Ty? :=
 let set := sol.setAt (env.activeSet.getD 0)
 let isExcluded := ty.conds.any fun cond =>
  let tyVar := cond.tyVar.free.elim cond.tyVar Ty.var
  !cond.tyVar.shared.constrs.isEmpty &&
   match set.get? tyVar, tyVar.shared.constrs[cond.idx]? with
   | some val, some constr => !constr.isSame val
   | _, _ => false
 if isExcluded then some .never else none

end

def maxDfltDepth := 4

def applyIn : Nat -> Sol -> ApplyOpts -> Ty -> Ty
 | 0, _, _, ty => ty
 | level + 1, sol, opts, ty =>
  if sol.isEmpty && opts.fillUnsolved.isNone then ty
  else
   let specDflt ty :=
    if let some scope := ty.cls.ref.scopeId then
     if (u.tyPars ty).isEmpty || ty.tyArgs?.isSome then ty
     else applyIn level {} {fillUnsolved := some {scopes := [scope]}} ty
    else ty
   u.morphPure {
    onTyVar := u.solvedVar sol opts specDflt
    onTupVar := solvedTupVar sol
    onMem := solvedMem sol opts
    onConds := solvedConds sol
    setCount := sol.sets.length} ty

def applySol (sol : Sol) (opts : ApplyOpts := {}) := u.applyIn maxDfltDepth sol opts ty

def specDflt :=
 if let some scope := ty.cls.ref.scopeId then
  if (u.tyPars ty).isEmpty || ty.tyArgs?.isSome then ty
  else u.applySol ty {} {fillUnsolved := some {scopes := [scope]}}
 else ty

/-- A class with its own type parameters as arguments. -/
def selfSpec (overrides useBoundVars := false) :=
 let pars := u.tyPars ty
 if pars.isEmpty || (ty.tyArgs?.isSome && !overrides) then ty
 else ty.spec (pars.map fun par =>
  let par := if par.isTupVar then par.unpackVar else par
  if useBoundVars then par.asBound else par)

def addSelf (sol : Sol) (ctx selfCls : Ty) : Sol :=
 let self := selfCls.toInst.map fun mem => if mem.hasLit then mem.setLit none else mem
 sol.setTy (ctx.selfVar false) self

def partlySpec (ctx : Ty) (tyCls selfCls : Ty? := none) : Ty :=
 if u.isUnspecialized ctx && selfCls.isNone then ty
 else
  let sol := u.solOf ctx
  let sol := if let some self := selfCls then addSelf sol ctx self else sol
  let apply ty := u.applySol ty sol {tyCls}
  let update meth := meth.map fun meth => {meth with meth := apply meth.meth}
  (apply ty).withCls fun data =>
   if data.getter.isSome || data.setter.isSome || data.deleter.isSome then
    {data with getter := update data.getter, setter := update data.setter, deleter := update data.deleter}
   else data

/-- An ancestor with the arguments that a class gives it. -/
def specForBase (base : Ty) := if (u.tyPars base).isEmpty then base else u.applySol base (u.solOf ty)

def specdTup? :=
 if !ty.isCls then none
 else
  let obj := if ty.isInsta then ty else ty.clsObj
  ((u.mro obj).find? fun mem => mem.isClsObj && mem.isTup).map
   fun tup => if obj.sameCls tup then obj else u.applySol tup (u.solOf obj)

def expandAliasIn : Nat -> Ty -> Ty
 | 0, ty => ty
 | fuel + 1, ty =>
  match ty.form with
  | .tyVar data =>
   if let some shared := data.shared.recAlias then
    let info := u.aliasAt shared.id
    if let some bound := info.bound then
     let bound := if ty.isInst then bound.toInst else bound
     match ty.aliasUse?.bind (·.tyArgs), info.tyPars with
     | some args, some pars => expandAliasIn fuel (u.applySol bound (.ofArgs pars args))
     | _, _ => expandAliasIn fuel bound
    else ty
   else ty
  | .union _ _ true =>
   let new := ty.map fun mem => expandAliasIn fuel mem
   if let some use := ty.aliasUse? then if new.isIdentical ty then new else new.setAliasUse use
   else new
  | _ => ty

def unrollAlias := u.expandAliasIn maxTyDepth ty

/-! The variables in a type. -/

def addUniqueVars (known added : Tys) :=
 added.foldl (fun known tyVar => if known.any (·.isSame tyVar) then known else known ++ [tyVar]) known

def tyVarsIn : Nat -> Ty -> Tys
 | 0, _ => []
 | fuel + 1, ty =>
  let ofAll (tys : Tys) := tys.foldl (fun known ty => addUniqueVars known (tyVarsIn fuel ty)) []
  let ownAlias := ty.aliasUse?.bind fun use =>
   if let some args := use.tyArgs then ofAll args
   else (u.aliasAt use.shared.id).tyPars.map (addUniqueVars [])
  if let some vars := ownAlias then vars
  else
   match ty.form with
   | .tyVar data =>
    if data.shared.recAlias.isSome || data.free.isSome then []
    else if ty.isSigVar && data.access.isSome then [ty.setAccess none]
    else [if ty.isInsta then ty.tyVarInst else ty]
   | .cls data => if let some args := data.tupArgs then ofAll (args.map (·.ty)) else ofAll (data.tyArgs.getD [])
   | .union mems _ _ => ofAll mems
   | .fn data => ofAll ((Ty.typedPars data).map (·.2) ++ (u.effRet? data).toList)
   | _ => []

def tyVarsOf := u.tyVarsIn (maxTyDepth + 1) ty

/-- The variables of the functions seen from the inside. -/
def bindFnVars := u.bindVarsOf (ty.sigs.filterMap Ty.scopeId?) ty

end Univ
end TypeChecker
