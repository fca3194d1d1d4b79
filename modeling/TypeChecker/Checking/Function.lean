import TypeChecker.Checking.Expression
import TypeChecker.Infer.Flow
import TypeChecker.Infer.Statement

/-! Functions: their parameters, what they return and yield, and their place in a class. -/

namespace TypeChecker
namespace Check
open Infer
def namesWithin : Nat -> Option (Nat × Node) -> Node -> List (Node × Option (Nat × Node))
 | 0, _, _ => []
 | fuel + 1, place, node =>
  match node.kind with
  | .name .. => [(node, place)]
  | .idx lhs items _ =>
   namesWithin fuel place lhs ++ items.zipIdx.flatMap fun (item, idx) => namesWithin fuel (idx, lhs) item
  | _ => node.kids.flatMap (namesWithin fuel place)

structure TyVarUse where
 tyVar : Ty
 node : Node
 isExempt : Bool
 (count inRet inPars inDefaulted : Nat := 0)
 defaultedPar : String? := none

variable (use : TyVarUse)
def TyVarUse.add (par : Option (ParParts Node)) (countsRet : Bool) :=
 let use := {use with count := use.count + 1}
 if let some parts := par then
  let use := {use with inPars := use.inPars + 1}
  if let some {kind := .ellipsis, ..} := parts.dfltVal then
   {use with
   inDefaulted := use.inDefaulted + 1
   defaultedPar := match use.defaultedPar with
    | some "" | none => parts.name.bind (·.nameVal?)
    | name => name}
  else use
 else if countsRet then {use with inRet := use.inRet + 1} else use

def TyVarUse.isUnsolvable := use.inDefaulted > 0 && use.inPars == use.inDefaulted

variable [Evals]
def reportUnsolvable :=
 let notes := Adden.empty.say "tyVarOpenFix"
 report .invalidTyVarUse (say "tyVarPossiblyOpen" [use.node.nameVal, use.defaultedPar.getD ""] ++ notes.print) use.node

def sigHints (parts : FnParts Node) :=
 let pars := parts.pars.filterMap fun par => do
  let par <- par.parParts?
  let hint <- par.hint <|> par.hintCmt
  some (hint, some par, true)
 let ret := parts.retHint.toList.map fun hint => (hint, none, false)
 let cmt := if let some (.fnTyCmt _ pars hint) := parts.hintCmt.map (·.kind) then
   pars.map (fun par => (par, none, parts.retHint.isNone)) ++ [(hint, none, false)]
  else []
 pars ++ ret ++ cmt

def addUse (uses : Array TyVarUse) (new : TyVarUse) (par : Option (ParParts Node)) (countsRet : Bool) :
  Array TyVarUse :=
 if let some idx := uses.findIdx? (·.tyVar.shared.name == new.tyVar.shared.name) then
  uses.modify idx (·.add par countsRet)
 else uses.push (new.add par countsRet)

def constructedCls? (node : Node) (ty : Ty) : Eval Ty? := do
 if !ty.fn.isInstMeth || ty.fn.name != "__init__" then return none
 let some owner := (<- tree).enclClsOrFn? node | pure none
 if !owner.isCls then return none
 return (<- Evals.tyOfCls owner).map (·.clsTy)

def checkTyVarUse (node : Node) (parts : FnParts Node) (res : FnTyRes) : Act := do
 if !(<- isReported .invalidTyVarUse node) then return
 let ty := res.fnTy
 let owner <- constructedCls? node ty
 let mut own := #[]
 let mut ofCls := #[]
 for (hint, par, exemptsArgs) in sigHints parts do
  for (name, place) in namesWithin Node.maxHeight none hint do
   let some hit <- tyAt? name | continue
   if !hit.isTyVar || hit.isSelfVar then continue
   if hit.var.scopeId == some (.ofNode node) then
    let isExempt := hit.hasConstrs || hit.shared.isDfltGiven || exemptsArgs && place.isSome || hit.isSigVar
    let isExempt <- if let some (idx, base) := place then
      if isExempt then pure true else do
       let use := (<- tyAt? base).bind (·.aliasUse?)
       let pars <- use.mapM fun use => return ((<- univ).aliasAt use.shared.id).tyPars.getD []
       pure (idx < (pars.getD []).length)
     else pure isExempt
    own := addUse own {tyVar := hit, node := name, isExempt} par true
   if let some owner := owner then
    if hit.var.scopeId.isSome && hit.var.scopeId == owner.cls.ref.scopeId then
     ofCls := addUse ofCls {tyVar := hit, node := name, isExempt := hit.shared.isDfltGiven} par false
 for use in own do
  if use.count == 1 && !use.isExempt then
   let other <- if use.tyVar.isTupVar then pure "tuple[object, ...]"
    else if let some bound := use.tyVar.bound? then printTy bound.toInst else pure "object"
   let notes := Adden.empty.say "tyVarIdleTip" ["\"" ++ other ++ "\""]
   flag .invalidTyVarUse "tyVarUsedOnlyOnce" use.node [use.node.nameVal] notes
  let isInUnion := use.inRet == 1 && ty.fn.declRet.any fun ret =>
   ret.isUnion && ret.subtys.any fun part => part.isTyVar && part.shared.name == use.node.nameVal
  let isImpl := res.decorated.isOvld && !ty.fn.flags.ovld
  if use.inRet > 0 && !isInUnion && use.isUnsolvable && !isImpl then reportUnsolvable use
 for use in ofCls do if use.isUnsolvable && !use.isExempt then reportUnsolvable use

open Match
variable (parts : FnParts Node)
def retHint? := parts.retHint <|> if let some (.fnTyCmt _ _ hint) := parts.hintCmt.map (·.kind) then hint else none

def parHint? (parts : ParParts Node) := parts.hint <|> parts.hintCmt

/-! ### Parameters -/

def checkParTy (name : Node) (ty : Ty) : Act := do
 let some idx := ty.fn.pars.findIdx? (·.name == name.nameVal?) | return
 let parTy := ty.parTy idx
 let val := name.nameVal
 if <- isReported .unkParTy name then
  if parTy.isUnk || (parTy.isTyVar && parTy.shared.isSynth && !parTy.isSelfVar) then
   flag .unkParTy "paramTyUnk" name [val]
  else if (<- univ).isPartlyUnk parTy then
   let note := say "parTy" [<- printTy parTy {expandAlias := true}]
   flag .unkParTy "paramTyPartlyUnk" name [val] (.ofMsg note)
 let isDecl := (ty.fn.pars[idx]?).any (·.isTyDecl)
 if !isDecl && !(parTy.isTyVar && parTy.isSelfVar) then flag .missingParTy "parHintGone" name [val]

def isSpecArgs (hint : Node?) : Ask := do
 let some {kind := .memAccess lhs mem, ..} := hint | pure false
 if mem.nameVal != "args" then return false
 return (<- tyAt? lhs).any (·.isSigVar)

def checkPars (ty : Ty) : Act := do
 let list := (<- univ).parList ty
 let mut sawSpec := false
 let mut kws := []
 for (node, idx) in parts.pars.zipIdx do
  let some par := node.parParts? | continue
  let some name := par.name | continue
  match par.cat with
  | .simple =>
   if idx >= list.posOnlyCount then kws := kws ++ [name.nameVal]
   if sawSpec then blame "kwParAfterSigArgs" name [name.nameVal]
  | .argsList => if <- isSpecArgs (parHint? par) then sawSpec := true
  | .kwargsDict => sawSpec := false
  if name.nameVal != "_" then checkParTy name ty
 if list.unpTdict.isSome then
  let idx := ty.fn.pars.length - 1
  let ents := (<- infoOf (ty.parTy idx)).typedEnts.filter fun _ => (ty.parTy idx).isCls
  let shared := (ents.elim [] (·.known)).filter fun (name, _) => kws.contains name
  if let some node := parts.pars[idx]? then
   if !shared.isEmpty then
    blame "overlapKwArgs" ((node.parParts?.bind (·.hint)).getD node) [commaList (shared.map (·.1))]
 let specs := ty.fn.pars.zipIdx.filter fun ((par, idx) : TyPar × Nat) =>
  let parTy := ty.parTy idx
  par.isTyDecl && parTy.isSigVar && par.cat != .simple && !par.nameText.isEmpty && parTy.var.access.isSome
 if let [(par, _)] := specs then
  let hit := parts.pars.filterMap (·.parParts?) |>.find? fun node => (node.name.bind (·.nameVal?)) == par.name
  if let some hint := hit.bind parHint? then blame "sigArgsKwargsUse" hint
 if (<- inStub parts.name) && (retHint? parts).isNone then flag .unkParTy "returnTyUnk" parts.name

def checkParVariance (par : ParParts Node) (ty : Ty) (idx : Nat) : Act := do
 let some hint := parHint? par | return
 if idx >= ty.fn.pars.length then return
 let parTy := ty.parTy idx
 if parTy.isTyVar && parTy.var.owner == some .clsDef && parTy.shared.declVariance == .covar &&
   !parTy.shared.isSynth && !(["__init__", "__new__"].contains ty.fn.name) then
  blame "parTyCo" hint

/-! ### Results -/

def checkKnown (rule : Rule) (what : String) (ty : Ty) (place : Node) : Act := do
 if ty.isUnk then flag rule (what ++ "Unk") place
 else if (<- univ).isPartlyUnk ty then flag rule (what ++ "PartlyUnk") place [<- printTy ty {expandAlias := true}]

def checkRetVariance (ty : Ty) (site : Node) : Act := do
 let isOut part := part.isTyVar && part.shared.declVariance == .contra && part.var.owner == some .clsDef
 if ty.subtys.any isOut then blame "retTyContra" site

variable (node : Node)
def checkRet (parts : FnParts Node) (ty : Ty) : Act := do
 if <- inStub node then return
 match retHint? parts with
 | none =>
  let inferred <- effRet ty
  checkKnown .unkParTy "returnTy" inferred parts.name
  checkRetVariance inferred parts.name
 | some hint =>
  let reachesEnd <- isAfterLive node <&&> isAfterLive parts.suite
  let mut res := ty.fn.declRet
  if let some ret := res then
   checkKnown .unkParTy "returnTy" ret parts.name
   checkRetVariance ret hint
   res <- boundAt node ret
  if ty.fn.flags.gen then
   let u <- univ
   res := ((u.effRet? ty.fn).bind Univ.genArgs?).map fun args => (args[2]?).getD .unk
  let some declared := res | return
  if !reachesEnd then return
  let isEmpty := parts.suite.isStubSuite || ty.fn.flags.ovld
  if declared.isNever then
   if !isEmpty then flag .retTy "neverReturnsNone" hint
  else if !ty.fn.flags.absMeth then
   let (fits, notes) <- explained (assign declared (<- noneTy))
   if !fits && !isEmpty then flag .retTy "retGone" hint [<- printTy declared] notes

variable (ty : Ty) (isAsync : Bool) (expr : Node?)
def genCls? (declared : Ty) : Eval Ty? := do
 let hit <- if !isAsync && declared.isObjOf "AwaitableGenerator" then do
   let some ty <- internalsTy? node "AwaitableGenerator" | typingTy? node "AwaitableGenerator"
   pure (some ty)
  else typingTy? node (if isAsync then "AsyncGenerator" else "Generator")
 return hit.filter (·.isClsObj)

def genMsg (ty : String) := say (if isAsync then "genAsyncRetTy" else "genSyncRetTy") [ty]

def checkGen (parts : FnParts Node) (ty : Ty) : Act := do
 if !ty.fn.flags.gen then return
 let some declared := ty.fn.declRet | return
 if declared.isNever then return
 let some decl <- ty.fn.decl.mapM declAt | return
 if decl.asFn?.all (·.yields.isEmpty) then return
 let some gen <- genCls? node parts.isAsync declared | return
 let (fits, notes) <- explained (assign declared (gen.spec (some [.any, .any, .any])).clsInst)
 if !fits then
  report .invalidTyForm (genMsg parts.isAsync (<- printTy .any) ++ notes.print) (parts.retHint.getD parts.name)

def checkYielded (yielded : Ty) (wantDiag : Adden?) (sent : Ty? := none) : Act := do
 let some fn := (<- tree).enclFn? node | return
 let some parts := fn.fnParts? | return
 if parts.retHint.isNone then return
 let some res <- Evals.tyOfFn fn | return
 let some declared := (<- univ).effRet? res.fnTy.fn | return
 let declared <- boundAt node declared
 let some gen <- genCls? node parts.isAsync declared | return
 if !(<- isReachable node) then return
 if declared.isNever then return <- blame "neverHasYield" node
 let (fits, notes) <- explained (assign declared (gen.spec [yielded, sent.getD .unk, .unk]).clsInst)
 if !fits then
  let place := expr.getD node
  report .retTy (genMsg parts.isAsync (<- printTy yielded) ++ (wantDiag.getD notes).print) place
   ((wantDiag.bind (·.effSpan)).getD place)

def isValOf (var ty : Ty) :=
 ty.subtys.all fun part =>
  if part.isTyVar then part.isSame var
  else part.conds.any fun cond => !cond.tyVar.shared.constrs.isEmpty && cond.tyVar.scopedName == var.var.scopedName

def constrsAt (bound : BoundMod) (var : Ty) (all : Tys) : Nat -> List FlowId -> FlowId -> Eval Tys
 | 0, _, _ => pure all
 | fuel + 1, visited, id => do
  if visited.contains id then return all
  let node := bound.flow.getD id default
  let before := constrsAt bound var all fuel
  let first := node.preds.getD 0 FlowNode.deadId
  match node.kind with
  | .dead | .excluded | .start => return all
  | .branch _ | .loop | .contextManager .. =>
   let mut hit := []
   for antecedent in node.preds do
    for constr in <- before (id :: visited) antecedent do if !hit.any (·.isSame constr) then hit := hit ++ [constr]
   return hit
  | .pat subj stmt =>
   if let .caseClause pat .. := stmt.kind then
    if isValOf var (<- tyOf subj).ty then
     if let .patAs [only] _ := pat.kind then
      if let .patCls clsName _ := only.kind then
       let ty := (<- tyOf clsName .base).ty
       if ty.isClsObj then return (<- before visited first).filter (·.isOfSameCls ty)
  | .cond kind expr _ =>
   if let .call callee [val, filter] _ := expr.kind then
    if (kind matches .isTrue | .isFalse) && callee.nameVal? == some "isinstance" then
     if isValOf var (<- tyOf val.argVal).ty then
      let lhs <- before (id :: visited) first
      let ty := (<- tyOf filter.argVal {EvalFlags.instDflts with instArg := false}).ty
      if ty.isClsObj then return lhs.filter (·.isOfSameCls ty == (kind matches .isTrue))
  | _ => pure ()
  before visited first

def constrAt? (var : Ty) : Eval Ty? := do
 let all := var.shared.constrs
 if !all.all (·.isObj) then return none
 let some bound <- bound? node | pure none
 let some flow <- flowAt? node | pure none
 if let [only] <- constrsAt bound var all (bound.flow.size + 1) [] (flow - Anc.firstId bound.block) then pure only
 else pure none

def checkReturn : Act := do
 let fn := (<- tree).enclFn? node
 let declared <- if let some fn := fn then declaredRet? fn else pure none
 let res <- if let some expr := expr then (·.getD .unk) <$> resAt? expr else .ofTy <$> noneTy
 let ret := res.ty.special?.getD res.ty
 let place := expr.getD node
 let some fn := fn | return
 let some parts := fn.fnParts? | return
 if parts.isAsync && expr.isSome then
  let some bound <- bound? fn | return
  if let some id := bound.nodeDecl[fn.id]? then
   if (<- declAt id).asFn?.any (·.isGen) then blame "retInAsyncGen" place
 if !(<- isReachable node) then return
 if let some declared := declared then
  if declared.isNever then blame "neverHasRet" node
  else
   let declared <- stripTyGuard declared
   let bind := boundAt node
   let (fits, notes) <- explained (assign (<- bind declared) ret)
   let mut fits := fits
   let mut notes := notes
   if !fits then
    let mut constrs := {}
    for var in (<- univ).tyVarsOf declared do
     if var.hasConstrs then
      if let some only <- constrAt? node var.asBound then constrs := constrs.setTy var only
    if !constrs.isEmpty then
     let (fitsNow, more) <- explained (assign (<- bind (<- solve declared constrs)) ret)
     fits := fitsNow
     notes := notes.append more
   if !fits then
    report .retTy
     (say "retTyBad" [<- printTy ret, <- printTy declared] ++ (res.wantDiag.getD notes).print) place
     (res.wantDiag.bind (·.effSpan))
 checkKnown .unkVarTy "returnTy" ret place

def checkTyGuard (isMeth : Bool) : Act := do
 let some ret := ty.fn.declRet | return
 let isTyIs := ret.isNamed "TypeIs"
 if !ret.isObj || !isTyIs && !ret.isNamed "TypeGuard" then return
 let some narrowed := ret.tyArgs.head? | return
 let flags := ty.fn.flags
 let bindsFirst := isMeth && (ty.fn.isInstMeth || flags.ctorMeth || flags.clsMeth)
 if ty.fn.pars.length < (if bindsFirst then 2 else 1) then blame "tyGuardParNum" parts.name
 if !isTyIs then return
 let idx := if isMeth && !flags.staticMeth then 1 else 0
 if idx >= ty.fn.pars.length then return
 let u <- univ
 let scopes := ty.scopeIds
 let guarded := u.bindVarsOf scopes narrowed
 let parTy := u.bindVarsOf scopes (ty.parTy idx)
 if !(<- canAssign parTy (guarded.setTyForm guarded)) then
  if let some hint := retHint? parts then blame "tyIsRetTy" hint [<- printTy narrowed, <- printTy parTy]

def checkInitReturn : Act := do
 if ty.fn.name != "__init__" then return
 match retHint? parts, ty.fn.declRet with
 | some hint, some declared => if !declared.isNoneInst && !declared.isNever then blame "initMustRetNone" hint
 | _, _ =>
  let inferred <- effRet ty
  if !inferred.isNever && !inferred.isNoneInst && !inferred.isAnyLike then blame "initMustRetNone" parts.name

/-! ### Methods -/

def checkSuperCall (ty owner : Ty) : Act := do
 if !(<- isReported .missingSuperCall parts.name) then return
 let name := ty.fn.name
 let flags := {skipInstMems := true, skipOrigCls := true, skipObjBase := (<- flagsOf owner).final}
 if (<- clsMem? owner name flags).isNone then return
 for node in parts.suite.preorder do
  if let .call {kind := .memAccess base mem, ..} _ _ := node.kind then
   if mem.nameVal != name then continue
   if let .call callee _ _ := base.kind then if callee.nameVal? == some "super" then return
   if (<- tyAt? base).any (·.isClsObj) then return
 flag .missingSuperCall "goneSuperCall" parts.name [name]

def checkSelfTy (ty owner : Ty) (isCls : Bool) : Act := do
 let some par := ty.fn.pars.head? | return
 let some hint := (parts.pars.head?.bind (·.parParts?)).bind parHint? | return
 let some name := par.name | return
 let parTy := ty.parTy 0
 let u <- univ
 if ty.fn.name == "__init__" then
  if let some methCls := ty.fn.methCls then
   if (u.tyVarsOf parTy).any fun tyVar => tyVar.var.scopeId == methCls.cls.ref.scopeId && !tyVar.isSelfVar then
    flag .invalidTyVarUse "initMethSelfParTyVar" hint
 if (u.flags owner).proto then return
 let hit <- firm parTy
 if hit.isCls && (<- flagsOf hit).proto then return
 if par.cat == .argsList && parTy.isSigVar && parTy.var.access == some .args then return
 if ty.fn.flags.ovld then return
 if parTy.isObjOf "LiteralString" && owner.isNamed "str" then return
 let want := if isCls then owner else owner.toInst
 if !(<- canAssign parTy want) && !parTy.isNever then blame "clsSelfParTyBad" hint [name, <- printTy want]

def checkMeth (ownerNode : Node) : Act := do
 let some made <- Evals.tyOfCls ownerNode | return
 let owner := made.clsTy
 let name := parts.name.nameVal
 let flags := ty.fn.flags
 if ["__init__", "__init_subclass__", "__enter__", "__exit__"].contains name then
  if !flags.absMeth && !flags.ovld && !(<- inStub parts.name) then checkSuperCall parts ty owner
 if name == "_generate_next_value_" then return
 let first := parts.pars.head?
 let par := first.bind (·.parParts?)
 let parName := ((par.bind (·.name)).bind (·.nameVal?)).getD ""
 let place := first.getD parts.name
 let isMcls := (<- univ).isInstaMcls owner
 let isClsName := ["cls", "_cls", "__cls"].contains parName
 let isClassName := isClsName || isMcls && ["__mcls", "mcls", "mcs", "metacls"].contains parName
 if name == "__new__" then
  if !isClassName then
   flag .selfClsParName "newClsPar" (if (par.bind (·.name)).isNone then parts.name else place)
  checkSelfTy parts ty owner true
 else if flags.staticMeth then
  if let some nameNode := par.bind (·.name) then
   if ["self", "cls"].contains parName then flag .selfClsParName "staticClsSelfPar" nameNode
 else if flags.clsMeth then
  if !isClassName then flag .selfClsParName "clsMethClsPar" place
  checkSelfTy parts ty owner true
 else
  if flags.ovld || parts.decos.isEmpty then
   let isSimple := par.all (·.cat == .simple)
   if isSimple && !(["self", "_self", "__self"].contains parName) && !(isMcls && isClsName) &&
     !Name.isPrivateOrProtected parName then
    flag .selfClsParName "instMethSelfPar" place
  checkSelfTy parts ty owner false

end Check
end TypeChecker
