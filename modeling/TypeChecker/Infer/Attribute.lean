import TypeChecker.Infer.Access

/-! Attributes as expressions: `val.name` for values of every kind. -/

namespace TypeChecker.Infer
variable [Evals] (site : Node?) (ty : Ty) (name : String)
def boundWithNotes (usage : Usage := {}) (flags : MemFlags := {}) (self : Ty? := none) :=
 Match.explained (accessBound site ty name usage flags self 0)

def boundMem? (flags : MemFlags := {}) (usage : Usage := {}) :=
 Match.plain (accessBound site ty name usage flags none 0)

variable (node : Node)
def sigPart (base : Ty) (name : String) (draft : Bool) : Eval Ty := do
 let access? : Option (ParSpecAccess × ParCat × String) := match name with
  | "args" => some (.args, .argsList, "sigArgsUse")
  | "kwargs" => some (.kwargs, .kwargsDict, "sigKwargsUse")
  | _ => none
 if let some (access, cat, msg) := access? then
  if (((<- tree).enclPar? node).bind (·.parParts?)).any (·.cat == cat) then return base.setAccess access
  badForm msg node
 else if !draft then blame "sigUnkMem" node [name]
 return .unkOf draft

variable (mem : Node)
def modMem? (base : Ty) (usage : Usage) (flags : EvalFlags) : Eval Typed? := do
 let .mod data := base.form | pure none
 let name := mem.nameVal
 if let some sym <- modField? base name then
  let symFlags <- symFlags sym
  if !symFlags.isHidden then
   if usage.meth == .get then markRead sym mem
   let info <- Evals.effTyOfSym sym none true
   let mut ty := info.ty
   if flags.tyExpr then ty <- checkTySym node ty info.includesVar
   ty <- addTyForm node ty flags info.includesVar
   if ty.isTyVar then ty <- usedVar node ty flags
   if ty.isUnbound then ty := .draftUnk
   if symFlags.privMem then flag .privUsage "privUsedOutMod" mem [name]
   if symFlags.privTypedImport then flag .privImportUsage "privImpMod" mem [name, data.name]
   return ty
 if usage.meth == .get then
  if let some sym <- modField? base "__getattr__" then
   let info <- Evals.effTyOfSym sym none false
   if info.ty.isFn then return some {ty := <- effRet info.ty, draft := info.draft}
 return data.notPresent.map .ofTy

def reportMissingMem (base : Ty) (usage : Usage) (notes : Adden) : Eval Ty := do
 let name := mem.nameVal
 let isFn := base.isRoutine || (base.isObjIn ["function", "FunctionType"])
 let notes := (usage.setWantDiag.filter (!·.isEmpty)).getD notes
 let isKey := base.isCls && (<- infoOf base).typedEnts.any fun ents => (ents.known.lookup name).isSome
 let notes := if isKey then notes.addChild (.ofMsg (say "tdKeyRead" [name])) else notes
 let msg := match usage.meth with
  | .get => "memRead"
  | .set => "memSet"
  | .del => "memDel"
 report (if isFn then .fnMemAccess else .attrAccessIssue)
  (say msg [name, <- printTy base] ++ notes.print) mem (notes.effSpan.getD mem)
 return if isFn then .any else .unk

def accessAttrIn (node lhs mem : Node) (usage : Usage) : Nat -> EvalFlags -> Typed -> Eval Typed
 | 0, _, _ => pure .unk
 | fuel + 1, flags, base => do
  let recur := accessAttrIn node lhs mem usage fuel
  let name := mem.nameVal
  let draft := base.draft || usage.setTy.any (·.draft)
  let u <- univ
  let ty := u.unrollAlias base.ty
  if base.draft && ty.isUnbound then return {ty := .draftUnk, draft := true}
  let ty := if flags.tyExpr then ty else ty.special?.getD ty
  let ty <- if ty.isSigVar && ty.var.access.isSome then firm ty
   else if ty.isCls && (u.flags ty).newTy && !ty.cls.orSub then pure ((<- clsOf? (·.fnCls)).elim ty (·.clsInst))
   else pure ty
  let finish (res : Typed?) (notes : Adden := .empty) := do
   let res <- if let some res := res then pure res
    else
     let isFn := ty.isRoutine || (ty.isObjIn ["function", "FunctionType"])
     let hit <- if base.draft then pure (if isFn then .any else .unk) else reportMissingMem mem ty usage notes
     pure {ty := hit, draft}
   if !flags.tyExpr then reportTyCheckOnly res.ty mem
   pure {res with ty := <- runtimeVal res.ty flags}
  match ty.form with
  | .any _ | .unk .. | .never _ => finish (some {ty, draft})
  | .unbound => finish none
  | .tyVar data =>
   if ty.isSigVar then finish (some {ty := <- sigPart node ty name draft, draft})
   else if flags.tyExpr then
    if !draft then blame "tyVarNoMem" lhs [<- printTy ty, name]
    finish (some {ty := .unkOf draft, draft})
   else if data.shared.recAlias.isSome then finish (some {ty := .draftUnk, draft := true})
   else if ty.isTupVar then finish none
   else recur {} {ty := <- firm ty, draft, bindToSelf := if ty.isInsta then ty.toInst else ty}
  | .cls _ =>
   let enumMem <- tyOfEnumMem? node ty name draft
   let isSet := usage.meth != .get
   if let (some hit, true) := (enumMem, isSet) then
    if hit.ty.isObj && hit.ty.isOfSameCls ty && hit.ty.hasLit then
     flag .attrAccessIssue (if usage.meth == .set then "enumMemSet" else "enumMemDel") mem [name]
   let (hit, notes) <- if enumMem.isSome && !isSet then pure (enumMem, .empty)
    else boundWithNotes mem ty name usage ({tyExpr := flags.tyExpr}) base.bindToSelf
   let cond (hit : Ty) := hit.addConds ty.ownConds {skipSelf := true, skipBoundVars := true}
   let some hit := hit | finish none notes
   let res := {hit with draft := draft || hit.draft, clsTy := none, narrowedForSet := hit.narrowedForSet.map cond}
   if hit.tyErrs then return {res with ty := (<- finish none notes).ty}
   finish (some {res with ty := cond hit.ty})
  | .mod data =>
   if let some hit <- modMem? node mem ty usage flags then finish (some {hit with draft := draft || hit.draft})
   else
    if !draft then flag .attrAccessIssue "modUnkMem" mem [name, data.name]
    finish (some {ty := .unk, draft})
  | .union .. =>
   let mut res : Typed := {ty, draft}
   let mut changed := #[]
   for part in ty.subtys do
    if part.isUnbound then changed := changed.push none
    else if part.isNoneInst then
     if let some hit := (<- boundMem? mem part name {} usage).filter (!·.tyErrs) then
      res := {res with draft := res.draft || hit.draft}
      changed := changed.push (hit.ty.addConds ty.ownConds {skipBoundVars := true})
     else
      if !res.draft then flag .optMemAccess "noneUnkMem" mem [name]
      changed := changed.push none
    else
     let hit <- recur {} {ty := part, draft := base.draft}
     res := {res with draft := res.draft || hit.draft, tyErrs := res.tyErrs || hit.tyErrs
                      accessDepr := hit.accessDepr.or res.accessDepr}
     changed := changed.push hit.ty
   finish (some {res with ty := ty.remapped ty.subtys changed.toList {}})
  | .fn _ | .ovld .. =>
   let hasSelf := ty.isMeth
   if name == "__self__" && hasSelf then finish ((ty.sigs.head?.bind (·.fn.boundTo)).map fun ty => {ty, draft})
   else
    let owner <- clsOf? (if hasSelf then (·.methCls) else (·.fnCls))
    finish (some {ty := (<- recur flags (owner.elim .unk (·.toInst))).ty, draft})

def accessAttr (base : Typed) (usage : Usage) (flags : EvalFlags := {}) :=
 if let .memAccess lhs mem := node.kind then accessAttrIn node lhs mem usage maxTyDepth flags base else pure .unk

def narrowByFlow (res atStart : Typed) (flags : EvalFlags) := do
 let flow <- Evals.flowTy node {tyAtStart := atStart, skipConds := flags.tyExpr}
 pure {res with ty := flow.ty.getD res.ty, draft := res.draft || flow.draft}

def tyOfAttr (flags : EvalFlags) : Eval Typed := do
 let .memAccess lhs mem := node.kind | pure .unk
 let name := mem.nameVal
 let base <- tyOf lhs
  {noSpec := true, tyExpr := flags.tyExpr, varTyAnnot := flags.varTyAnnot, fwdRefs := flags.fwdRefs
   notParsed := flags.notParsed, noTyVarWithScopeId := flags.noTyVarWithScopeId, bindsTyVars := flags.bindsTyVars
   keepSpec := flags.instaTy && (name == "args" || name == "kwargs")}
 if (<- univ).isHole base.ty then return {ty := .draftUnk, draft := true}
 let mut res <- accessAttr node base {} {flags with noSpec := true}
 if node.isRef then
  writeTy node {res with draft := true}
  writeTy mem {res with draft := true}
  let mut atStart : Typed := {ty := res.ty, draft := res.draft}
  if res.ty.isUnbound then
   let owner <- firm base.ty
   let inher <- if owner.isCls then clsMem? owner name {skipOrigCls := true} else pure none
   if let some mem := inher then atStart := <- tyOfMem mem
  res <- narrowByFlow node res atStart flags
  let ty <- reportMissingTyArgs node res.ty flags
  res := {res with ty := <- addTyForm node ty flags false}
 res := {res with draft := res.draft || base.draft}
 let isClsVal := (res.ty.isClsObj && !res.ty.cls.orSub) || res.ty.special?.isSome
 let anc <- tree
 let isArg := (anc.nearestOfKind? node (·.kind matches .arg ..)).bind anc.parentKind? matches some (.call ..)
 if !res.draft && !(isClsVal && isArg) then reportUnk .unkMemTy mem res.ty node false
 writeTy mem res
 pure res

end TypeChecker.Infer
