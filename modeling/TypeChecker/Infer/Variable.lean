import TypeChecker.Infer.Call.Lining

/-! Making type variables: by calls of the classes for them and by the syntax for type parameters. -/

namespace TypeChecker.Infer
open Evals
variable [Evals] (arg : Arg)
def tyOfArgWant (opts : ExpectOpts := {}) : Eval Typed :=
 match arg.res, arg.val with
 | some res, _ => pure {ty := res.ty, draft := res.draft}
 | none, some val => tyWant val opts
 | none, none => pure .unk

def Arg.place (site : Node) := arg.val.getD site

def Arg.str? : String? := do
 let val <- arg.val
 if val.kind matches .strList .. then val.stringsVal.toString else none

def varName (first : Arg) (msg : String) (site : Node) : Eval String := do
 if let some name := Arg.str? first then pure name
 else
  report .general msg (Arg.place first site)
  pure ""

def boolArg : Ask := do
 let some val := arg.val | pure false
 match val.kind with
 | .const .falseKw => pure false
 | .const .trueKw => pure true
 | _ =>
  blame "wantBoolLit" val
  pure false

def makeVar (name : String) (kind : TyParKind) (runtime : Ty?) : Eval Ty := do
 let ty := .ofVarName {id := <- freshVarId, name, kind}
 return if let some runtime := runtime then ty.setSpec runtime.clsInst else ty

def changeVar (ty : Ty) (change : TyVarShared Ty -> TyVarShared Ty) :=
 ty.withVar fun data => {data with shared := change data.shared}

def setVarDflt (ty default : Ty) := changeVar ty ({· with default := default, isDfltGiven := true})

def checkDfltAllowed (clsTy : Ty) (node : Node) : Act := do
 let file <- fileOf node
 if !file.isStub && file.ver.isLessThan (.three 13) && clsTy.cls.ref.modName != "typing_extensions" then
  blame "tyVarDfltBad" node

def checkVarDflt (tyVar : Ty) (node : Node) : Act := do
 let shared := tyVar.shared
 let default := shared.default.getD .unk
 let hit <- firm (<- solve default {} (<- unsolvedIn tyVar.scopeIds))
 if let some bound := shared.bound then
  if !(<- canAssign bound hit) then blame "tyVarDfltBoundBad" node
 else if tyVar.hasConstrs then
  let isAllowed ty opts := shared.constrs.any (·.isSame ty opts)
  let fits := if default.isTyVar && default.hasConstrs then default.shared.constrs.all (isAllowed · {})
   else isAllowed hit {ignoreConds := true}
  if !fits then blame "tyVarDfltConstrBad" node

variable (site : Node)
def createTyVar (clsTy : Ty) (args : List Arg) : Eval Ty? := do
 let first :: rest := args
  | blame "tyVarArg1" site return none
 let mut ty <- makeVar (<- varName first (say "tyVarArg1") site) .tyVar clsTy
 let mut names := []
 let mut firstConstr := none
 let mut dfltNode := none
 for arg in rest do
  let place := Arg.place arg site
  let setVariance ty variance conflicts := do
   if !(<- boolArg arg) then return ty
   if conflicts.contains ty.shared.declVariance then
    blame "tyVarVary" place
    return ty
   return changeVar ty ({· with declVariance := variance})
  if let some name := arg.name.map (·.nameVal) then
   if names.contains name then flag .callIssue "dupPar" place [name]
   names := name :: names
   match name with
   | "bound" =>
    if ty.hasConstrs then blame "tyVarBoundAndConstr" place
    else
     let bound := (<- tyOfArgWant arg {onlyTyForms := true, tyExpr := true, parsesStrLit := true}).ty
     if (<- univ).needsSpec bound {ignorePseudo := true, ignoreAutoArgs := true} then
      blame "tyVarBoundGen" place
     ty := changeVar ty ({· with bound := bound.toInst})
   | "covariant" => ty <- setVariance ty .covar [.contra, .auto]
   | "contravariant" => ty <- setVariance ty .contra [.covar, .auto]
   | "infer_variance" => ty <- setVariance ty .auto [.covar, .contra]
   | "default" =>
    dfltNode := arg.val
    ty := setVarDflt ty (<- tyOfArgWant arg {allowUnscoped := true, tyExpr := true}).ty.toInst
    checkDfltAllowed clsTy place
   | _ => flag .callIssue "tyVarUnkPar" (arg.name.getD place) [name]
  else if (ty.bound?).isSome then blame "tyVarBoundAndConstr" place
  else
   let hit := (<- tyOfArgWant arg {tyExpr := true}).ty
   if (<- univ).needsSpec hit {ignorePseudo := true} then blame "tyVarConstrGen" place
   ty := changeVar ty fun shared => {shared with constrs := shared.constrs ++ [hit.toInst]}
   firstConstr := firstConstr.or arg
 if let ([_], some arg) := (ty.shared.constrs, firstConstr) then blame "tyVarSingleConstr" (Arg.place arg site)
 if let some node := dfltNode then checkVarDflt ty node
 pure ty

variable (node : Node) (isSyntax : Bool)
def tupVarDflt? : Eval Ty? := do
 let ty := (<- tyWant node {allowUnpTup := true, allowUnscoped := true, fwdRefs := isSyntax, tyExpr := true}).ty
 if !(ty.isCls && ty.isTup && ty.cls.isUnp) && !ty.isUnpTupVar then
  blame "tupVarDfltNotUnp" node
  return none
 pure ty.toInst

def sigDflt? : Eval Ty? := do
 let base := Ty.synth "" {sigVal := true}
 match node.kind with
 | .ellipsis => return some (.ofFn {base with pars := Ty.dfltPars, flags.gradual := true})
 | .list items =>
  let pars <- items.zipIdx.mapM fun (item, idx) => do
   let res <- tyWant item {allowUnscoped := true, fwdRefs := isSyntax, tyExpr := true}
   return Ty.numberedPar idx res.ty.toInst
  writeTy node (.ofTy .any)
  return some (.ofFn {base with pars := if pars.isEmpty then [] else pars ++ [Ty.posSep]})
 | _ =>
  let res <- tyWant node {allowParSpec := true, allowUnscoped := true, allowDots := true, tyExpr := true}
  if res.tyErrs then return none
  if res.ty.isSigVar then return some (.ofFn {base with pars := Ty.sigVariadics res.ty})
  if res.ty.isObjIn ["EllipsisType", "ellipsis"] then
   return some (.ofFn {base with pars := Ty.dfltPars})
  blame "sigDfltNotTup" node
  pure none

def unbUnk := tupObj [{ty := .unk, isUnb := true}]

def createPackVar (isSig : Bool) (clsTy : Ty) (args : List Arg) : Eval Ty? := do
 let noName := say (if isSig then "sigArg1" else "tyVarArg1")
 let first :: rest := args
  | report .callIssue noName site return none
 let mut ty <- makeVar (<- varName first noName site) (if isSig then .parSpec else .tyVarTup) clsTy
 let unk <- if isSig then pure .unkParSpec else unbUnk
 ty := changeVar ty ({· with default := unk})
 for arg in rest do
  let place := Arg.place arg site
  if let some name := arg.name then
   if name.nameVal == "default" then
    if let some default <- if isSig then sigDflt? place false else tupVarDflt? place false then
     ty := setVarDflt ty default
    checkDfltAllowed clsTy place
   else blame (if isSig then "sigUnkPar" else "tupVarUnkPar") name [name.nameVal]
  else if isSig then
   flag .callIssue "sigUnkArg" place
   break
  else blame "tupVarConstrs" place
 pure ty

def checkParDflt (par : Ty) (others : Tys) (scope : TyScopeId) : Act := do
 let shared := par.shared
 if !shared.isDfltGiven && !shared.isSynth && !par.isSelfVar then
  if let some other := others.find? fun other => other.shared.isDfltGiven && other.var.scopeId == some scope then
   blame "tyVarWithoutDflt" site [shared.name, other.shared.name]
  return
 let invalid := (<- univ).invalidDfltVars par others
 if !invalid.isEmpty then
  let notes := invalid.foldl (fun notes name => notes.say "tyVarDfltOutOfScope" [name]) .empty
  blame "tyVarDfltBadTyVar" site [shared.name] notes

def quotedVars (vars : Tys) := quotedList (vars.map (·.shared.name))

def tyParNodes (list : Node?) := if let some (.tyParList pars) := Node.kindOf? list then pars else []

variable (nodes : Nodes)
def tyParPlace (idx : Nat) (ofDflt : Bool) :=
 if let some (.tyPar name _ _ default) := Node.kindOf? nodes[idx]? then if ofDflt then default.getD name else name
 else site

variable (pars : Tys)
def checkParDflts (scope : TyScopeId) : Act := do
 for (par, idx) in pars.zipIdx do checkParDflt (tyParPlace site nodes idx true) par (pars.take idx) scope

def checkBehindMany : Act := do
 let some first := pars.findIdx? (·.isTupVar) | return
 let late := pars.zipIdx.find? fun (par, idx) => first < idx && !par.isSigVar && par.shared.isDfltGiven
 if let some (par, idx) := late then
  blame "tyVarWithDfltAfterMany" (tyParPlace site nodes idx false)
   [par.shared.name, (pars.map (·.shared.name)).getD first ""]

def tyParList : Eval Tys := do
 let .tyParList pars := node.kind | pure []
 let some scope <- scopeIdOf? node | pure []
 pars.filterMapM fun par => do
  let .tyPar name .. := par.kind | pure none
  let some sym := ((<- get).scopes.scope scope).sym? name.nameVal | pure none
  let some ty := (<- declTy? sym name).filter (·.isTyVar) | pure none
  writeTy name (.ofTy ty)
  pure ty

def tyOfTyPar : Eval Ty := do
 let .tyPar nameNode kind bound dfltExpr := node.kind | pure .unk
 if let some ty := (<- cachedTy? nameNode).filter (·.isTyVar) then return ty
 let runtime <- typingTy? node (match kind with
  | .tyVar => "TypeVar"
  | .tyVarTup => "TypeVarTuple"
  | .parSpec => "ParamSpec")
 let mut ty <- makeVar nameNode.nameVal kind (runtime.filter (·.isClsObj))
 ty := changeVar ty ({· with isTyParSyntax := true})
 writeTy node (.ofTy ty)
 writeTy nameNode (.ofTy ty)
 let opts := {onlyTyForms := true, fwdRefs := true, tyExpr := true}
 if let some bound := bound then
  match bound.kind with
  | .tup items _ =>
   let constrs <- items.mapM fun item => do
    let hit := (<- tyWant item opts).ty
    if (<- univ).needsSpec hit {ignorePseudo := true, ignoreAutoArgs := true} then
     blame "tyVarBoundGen" item
    pure hit.toInst
   if constrs.length < 2 then blame "tyVarSingleConstr" bound
   else if kind == .tyVar then ty := changeVar ty ({· with constrs})
  | _ =>
   let hit := (<- tyWant bound opts).ty
   if (<- univ).needsSpec hit {ignorePseudo := true} then blame "tyVarConstrGen" bound
   if kind == .tyVar then ty := changeVar ty ({· with bound := hit.toInst})
 let default <- match kind, dfltExpr with
  | .parSpec, some expr => sigDflt? expr true
  | .tyVarTup, some expr => tupVarDflt? expr true
  | .tyVar, some expr => do pure (<- tyWant expr {fwdRefs := true, tyExpr := true}).ty.toInst
  | _, none => pure none
 if let some default := default then
  ty := setVarDflt ty default
  if let some expr := dfltExpr then checkVarDflt ty expr
 else
  let unk <- match kind with
   | .parSpec => pure .unkParSpec
   | .tyVarTup => unbUnk
   | .tyVar => pure .unk
  ty := changeVar ty ({· with default := unk})
 if let some scope := (<- tree).tyVarScope? node then
  let inferred := if kind == .tyVar then .auto else .invar
  let inScope (owner : TyVarOwner) (place name : Node) (variance : Variance) (ty : Ty) :=
   (changeVar ty ({· with declVariance := variance})).setVarScope (.ofNode place) name.nameVal owner
  ty := match scope.kind with
   | .clsDef parts => inScope .clsDef scope parts.name inferred ty
   | .fnDef parts => inScope .fn scope parts.name .invar ty
   | .tyAlias _ name .. => inScope .tyAlias name name inferred ty
   | _ => ty
 writeTy node (.ofTy ty)
 writeTy nameNode (.ofTy ty)
 pure ty

end TypeChecker.Infer
