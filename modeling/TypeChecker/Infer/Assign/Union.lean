import TypeChecker.Infer.Assign.Bind

/-! Assigning from and to unions. -/

namespace TypeChecker
namespace Infer
open Match
variable [Evals] (msg name : String) (ty dest src : Ty)
def mappingEquivalent? : Eval Ty? := do
 if !(<- flagsOf ty).isClosedDict then return none
 let ents <- typedEnts ty
 let val := Ty.combine (ents.known.map (·.2.valTy) ++ (ents.extra.map (·.valTy)).toList)
 return if val.isObjOf "object" then none else val

def dictEquivalent? (depth : Nat) : Eval Ty? := do
 if !(<- flagsOf ty).isClosedDict then return none
 let ents <- typedEnts ty
 let some extra := ents.extra | pure none
 if extra.isReadOnly then return none
 let (val, fits) <- ents.known.foldlM (fun (val, fits) (_, ent) => do
  let val := .combine [val, ent.valTy]
  let isSame <- canAssign val ent.valTy {invar := true} (depth + 1)
  return (val, fits && !ent.isReadOnly && !ent.isReq && isSame))
  (extra.valTy, true)
 return if fits then val else none

def extraEnt : Eval (TdictEnt Ty) := do
 let info <- infoOf ty
 if !info.flags.tdictClosed then
  return {valTy := <- objTy, isReadOnly := true, isReq := false, isProvided := false}
 if let some extra := info.typedEnts.bind (·.extra) then pure extra
 else pure {valTy := .never, isReadOnly := true, isReq := false, isProvided := false}

def noteEnt := noteBelow msg [name, printTy ty.clsInst]

def assignEnt (dest : TdictEnt Ty) (src : Ty) (isReadOnly : Bool) (msg : Match String)
  (flags : AssignFlags) (depth : Nat) : Fits := below do
 let fits <- below (assign dest.valTy src (if isReadOnly then flags else {flags with invar := true}) depth)
 if !fits then noteMsg msg
 pure fits

def assignKnownEnt (extraSrc : TdictEnt Ty) (srcEnts : TdictEnts) (flags : AssignFlags) (depth : Nat)
  (name : String) (goal : TdictEnt Ty) : Fits := do
 let clash := return say "memTyBad" [name]
 match srcEnts.known.lookup name with
 | none =>
  if goal.isReq || !goal.isReadOnly then
   noteEnt "tdFieldGone" name src
   return false
  if extraSrc.valTy.isObj then return <- assignEnt goal extraSrc.valTy true clash flags depth
  pure true
 | some given =>
  let isRequirementMet := goal.isReq == given.isReq || goal.isReadOnly
  if !isRequirementMet then noteEnt (if goal.isReq then "tdFieldReq" else "tdFieldOpt") name dest
  let isWritable := goal.isReadOnly || !given.isReadOnly
  if !isWritable then noteEnt "tdFieldNotReadOnly" name dest
  return (<- assignEnt goal given.valTy goal.isReadOnly clash flags depth) && isRequirementMet && isWritable

def assignExtraEnt (extra : Option (TdictEnt Ty)) (flags : AssignFlags)
  (depth : Nat) (name : String) (given : TdictEnt Ty) : Fits := do
 match extra with
 | none =>
  noteEnt "tdExtraFieldBad" name dest
  pure false
 | some extra =>
  let isOpt := !given.isReq || extra.isReadOnly
  if !isOpt then noteEnt "tdFieldOpt" name dest
  let msg := return say "tdExtraFieldTyBad" [name, <- printTy dest.clsInst]
  if !(<- assignEnt extra given.valTy extra.isReadOnly msg flags depth) then return false
  if !extra.isReadOnly && given.isReadOnly then
   noteEnt "tdFieldNotReadOnly" name src
   return false
  pure isOpt

def allExplained {α : Type} (items : List α) (test : α -> Fits) :=
 items.foldlM (fun fits item => do
  if fits then test item
  else if <- isExplaining then
   let _ <- test item
   pure false
  else pure false) true

def assignTdict (flags : AssignFlags) (depth : Nat) : Fits := do
 let destEnts <- typedEnts dest
 let srcEnts <- typedEnts src true
 let extraSrc <- if let some extra := srcEnts.extra then pure extra else extraEnt src
 let fits <- allExplained destEnts.known fun (name, goal) =>
  assignKnownEnt dest src extraSrc srcEnts flags depth name goal
 if !fits && !(<- isExplaining) then return false
 if !(<- flagsOf dest).isClosedDict then return fits
 let extraDest <- if let some extra := destEnts.extra then pure extra else extraEnt dest
 let others := srcEnts.known.filter fun (name, _) => (destEnts.known.lookup name).isNone
 let othersFit <- others.foldlM (fun fits (name, given) => do
  return (<- assignExtraEnt dest src destEnts.extra flags depth name given) && fits) fits
 let msg := return say "tdExtraFieldTyBad" ["extra_items", <- printTy src.clsInst]
 if !(<- assignEnt extraDest extraSrc.valTy extraDest.isReadOnly msg flags depth) then return false
 if !extraDest.isReadOnly && extraSrc.isReadOnly then
  noteEnt "tdFieldNotReadOnly" "extra_items" dest
  return false
 pure othersFit

def isProperSubty (dest src : Ty) (depth : Nat) := do
 if !dest.conds.isEmpty then return false
 if dest.isAnyLike || src.isAnyLike then return true
 let u <- univ
 if (dest.isCls && u.derivesFromAny dest) || (src.isCls && u.derivesFromAny src) then return true
 if !(<- canAssign dest src {} depth) then return false
 pure !(<- canAssign src dest {} depth)

def isSubsumed (ty other : Ty) (byAny : Bool) (depth : Nat := 0) : Ask := do
 let hit <- firm ty
 other.subtys.anyM fun mem => do
  if mem.isSame ty then return false
  if mem.isAnyLike then return byAny
  isProperSubty mem hit depth

structure UnionRest where
 (dest src : Tys)
 unmatched : Tys := []
 isFast := true
 matchedSome := false

def matchSameMems (u : Univ) (dest src : Tys) :=
 let rest : UnionRest := dest.foldl (fun rest mem =>
  if u.needsSpec mem then {rest with dest := rest.dest ++ [mem]}
  else if let some idx := rest.src.findIdx? (·.isSame mem) then
    {rest with src := rest.src.eraseIdx idx, matchedSome := true}
   else {rest with dest := rest.dest ++ [mem]}) {dest := [], src}
 {rest with unmatched := rest.src}

variable (dest src : Ty) (flags : AssignFlags) (depth : Nat)
def looksAlike : Ask := do
 if dest.isSame src then return true
 if src.isCls && dest.isCls && src.isInst == dest.isInst then
  if src.sameCls dest then return true
  let u <- univ
  if (u.flags src).tdict && (u.flags dest).tdict then if <- canAssign src dest flags depth then return true
 return src.isRoutine && dest.isRoutine

variable (rest : UnionRest)
def matchAlikeMems (flags : AssignFlags) (depth : Nat) : Match UnionRest :=
 rest.src.foldlM (fun state mem => do
  let hit <- state.dest.zipIdx.findM? fun (goal, _) => looksAlike goal mem flags depth
  let some (goal, idx) := hit | pure state
  let fits <- .quietly (assign goal mem flags depth)
  pure {state with
          dest := state.dest.eraseIdx idx
          src := state.src.filter (!·.isIdentical mem)
          isFast := state.isFast && fits, matchedSome := state.matchedSome || fits}) rest

def matchInTurn : Tys -> Tys -> Fits
 | [], _ => pure true
 | src :: rest, dests => do
  let hit <- dests.zipIdx.findM? fun (dest, _) => .below (assign dest src flags depth)
  let some (dest, idx) := hit | pure false
  matchInTurn rest (dests.eraseIdx idx ++ [dest])

inductive UnionOutcome where
 | decided (fits : Bool)
 | open_ (src : Tys) (matchedSome : Bool)

def matchRest (flags : AssignFlags) (depth : Nat) : Match UnionOutcome := do
 let fail src := if flags.partialOverlap && rest.matchedSome then .decided true else .open_ src rest.matchedSome
 if !rest.isFast then return fail rest.unmatched
 if rest.dest.isEmpty && rest.src.isEmpty then return .decided true
 if flags.invar && rest.src.isEmpty then return .decided (<- rest.dest.allM (isSubsumed · dest true depth))
 let isContra := flags.contra
 let tgts := if isContra then rest.src else rest.dest
 if tgts.isEmpty || tgts.any (!·.isTyVar) then return fail rest.src
 if rest.dest.length == rest.src.length then
  return if <- matchInTurn flags depth rest.src rest.dest then .decided true else fail rest.src
 match rest.src, rest.dest with
 | [], dests =>
  if flags.populateWant then dests.forM fun mem => discard <| .quietly (assign mem src flags depth)
  return .decided true
 | first :: _, dests =>
  let fits <- .below <|
   if isContra then assign dest first flags depth else assign (dests.headD .unk) (.combine rest.src) flags depth
  return if fits then .decided true else fail rest.unmatched

def matchUnions : Match UnionOutcome := do
 let known := dest.subtys.filter (!·.isAnyLike)
 let soleVar := if let [only] := known then if only.isTyVar then only else none else none
 if let some tyVar := soleVar then
  let _ <- .quietly (assign tyVar src flags depth)
  return .decided true
 else
  let u <- univ
  let rest := matchSameMems u (u.sortTys dest.subtys) (u.sortTys src.subtys)
  matchRest dest src (<- matchAlikeMems rest flags depth) flags depth

def assignFromUnion : Fits := do
 if src.isSame dest then return true
 if flags.ovlOverlap && src.subtys.any Ty.isAnyLike then return false
 let outcome <-
  if dest.isUnion then matchUnions dest src flags depth else pure (.open_ ((<- univ).sortTys src.subtys) false)
 match outcome with
 | .decided fits => pure fits
 | .open_ mems matchedSome =>
  let (fits, matchedSome) <- mems.foldlM (fun (fits, matchedSome) mem => do
   if !fits then return (fits, matchedSome)
   if <- .quietly (assign dest mem flags depth) then return (true, true)
   if <- isSubsumed mem src false depth then return (true, matchedSome)
   pure (<- .below (assign dest mem flags depth), matchedSome)) (true, matchedSome)
  if fits || (flags.partialOverlap && matchedSome) then return true
  noteClash src dest
  pure false

def assignToInvarUnion : Fits := do
 let u <- univ
 let fits <- dest.subtys.zipIdx.allM fun (mem, idx) => do
  if <- .below (assign mem src flags depth) then return true
  if mem.isAnyLike then return false
  let bound := u.bindVarsOf none mem
  dest.subtys.zipIdx.anyM fun (other, place) => do
   if place == idx then return false
   canAssign (u.bindVarsOf none other) bound {} depth
 if !fits then noteClash src dest
 pure fits

def bestUnionFit : Match (Bool × Constrs?) := do
 let u <- univ
 let outer <- .constrs
 let stripped <- stripLit src
 let (hit, best, naked) <- (u.sortTys dest.subtys).foldlM (fun state mem => do
  let (_, best, naked) := state
  let (fits, made) <- .withConstrs outer (.below (assign mem src flags depth))
  if !fits then return state
  match made with
  | none => pure (true, best, naked)
  | some made =>
   let isNaked := mem.isTyVar && outer.all fun outer => (outer.main.get? mem).isNone
   let score := made.score (<- univ) + (if isNaked then 0.001 else 0)
   let score := if mem.isSame stripped then 1.0 / 0.0 else score
   let isBest := best.all fun (bestScore, _) => decide ((bestScore : Float) <= score)
   pure (true, if isBest then (score, made) else best, if isNaked then naked + 1 else naked))
  (false, (none : Option (Float × Constrs)), 0)
 pure (hit, if 1 < naked && flags.argFirstPass then none else best.map (·.2))

def assignToUnion : Fits := do
 if flags.invar then return <- assignToInvarUnion dest src flags depth
 let u <- univ
 if u.needsSpec dest && !(src.isNoneInst && dest.isOpt) &&
   src.isLitTy && dest.subtys.any (·.isSame src) then return true
 let (fits, notes) <- .apart do
  let fits <-
   if !u.needsSpec dest then dest.subtys.anyM fun mem => .below (assign mem src flags depth)
   else if src.isNoneInst && dest.isOpt then pure true
   else do
    let (fits, best) <- bestUnionFit dest src flags depth
    if best.isSome then .setConstrs best
    pure fits
  if fits then return true
  if src.isTyVar && src.hasConstrs then return <- .below (assign dest (<- firm src) flags depth)
  pure false
 if !fits then
  noteClash src dest
  .attach notes
 pure fits

def fitsByCond : Ask :=
 src.subtys.allM fun mem => do
  if dest.isSame mem {ignorePseudo := true} || mem.isDraftUnk then return true
  (mem.ownConds.filter (·.tyVar.scopedName == dest.var.scopedName)).anyM fun cond => do
   match dest.bound?, dest.shared.constrs[cond.idx]? with
   | some bound, _ => canAssign bound mem {} depth
   | none, some constr => canAssign constr mem {} depth
   | none, none => pure true

end Infer
end TypeChecker
