import TypeChecker.Infer.Function
import TypeChecker.Infer.Assignment

/-! The types of declarations and symbols. -/

namespace TypeChecker.Infer
variable [Evals]
structure AliasPath where
 (isPrivate isTyped awaitsSrc : Bool := false)
 (importer src : String? := none)

structure Resolution where
 id : DeclId
 decl : Option Decl
 path : AliasPath := {}

variable (decl : Decl)
def fallbackOf? (withName : Bool) := if let .importAlias facts (some (uri, fallback, modName)) := decl.kind then
  let modName := match withName, facts.symName with
   | true, some name => (if modName == "" then "" else modName ++ ".") ++ name
   | _, _ => modName
  some {decl with kind := .importAlias fallback none, uri, modName, range := default}
 else none

variable (data : AliasFacts)
def aliasSym? (name : String) : Eval SymId? := match decl.uri.path?.filter fun _ => data.load with
 | some path => modSym? path name
 | none => pure none

def stepWithoutSym : Eval (AliasStep DeclId) := if let some fallback := fallbackOf? decl true then do
  let isLoaded <- if let some path := fallback.uri.path? then (·.isSome) <$> Evals.loadMod path else pure true
  return if isLoaded || decl.uri.isEmpty then .fallsBack else .missing
 else return if data.isNative then .fallsBack else .missing

def aliasTgts (scopes : ScopeWorld) (sym : SymId) :=
 let all := (scopes.sym sym).decls.toList
 let plain := all.filter fun id => !(scopes.decl id).inExcept
 let typed := plain.filter fun id => (scopes.decl id).hasTy
 if typed.isEmpty then (if plain.isEmpty then all else plain) else typed

def AliasPath.at (path : AliasPath) :=
 if path.awaitsSrc then {path with awaitsSrc := false, src := path.src.or decl.modName} else path

def AliasPath.past (path : AliasPath) (world : World) (flags : SymFlags) :=
 let path := if flags.privMem then {path with isPrivate := path.isPrivate || !path.isTyped} else path
 let hidden := flags.privTypedImport
 if !decl.uri.path?.any fun file => (world.origins.getD file {}).isTyped then path
 else if !path.isTyped then {path with isTyped := true, importer := if hidden then decl.modName else none}
 else {path with awaitsSrc := !hidden}

def aliasStep (localNames allowHidden : Bool) (id : DeclId) : StateT AliasPath Eval (AliasStep DeclId) := do
 let decl <- declAt id
 modify (·.at decl)
 let some data := decl.asAlias? | pure .stays
 let some name := data.symName | pure .stays
 if !localNames && data.usesLocalName then return .stays
 let some sym <- aliasSym? decl data name | stepWithoutSym decl data
 let world <- getThe World
 let flags := (world.scopes.sym sym).flags
 let tgts := aliasTgts world.scopes sym
 if tgts.isEmpty || flags.isHidden && !allowHidden then return .missing
 modify (·.past decl world flags)
 return .leads tgts

variable (id : DeclId)
def resolution (path : AliasPath) : AliasEnd DeclId -> Eval (Option Resolution)
 | .decl hit => return some {id := hit, decl := <- declAt hit, path}
 | .fallback holder => do
  let decl := fallbackOf? (<- declAt holder) true
  return some {id := holder, decl, path := {isPrivate := decl.isNone && path.isPrivate}}
 | .cycle last => do
  let hit <- declAt last
  let some decl := fallbackOf? hit false | return some {id, decl := <- declAt id, path := path.at hit}
  return some {id := last, decl}
 | .missing => pure none

def resolveAlias (localNames allowHidden : Bool) (freesFirst : Bool := false) : Eval (Option Resolution) := do
 let step cur := aliasStep (localNames || freesFirst && cur == id) allowHidden cur
 let known := return (<- getThe World).scopes.declared.length
 let (some stop, path) <- (followAlias step known ((<- get).project.fileCount + 1) 1000 [] id).run {} | pure none
 resolution id path stop

def resolved? := do resolveAlias id true (<- fileOf (<- declAt id).node).isStub

def tyOfSubnode? (node : Node) (action : Act) : Eval Typed? := do
 if let some ent := (<- cacheEnt? node).filter (!·.res.draft) then
  let ty := ent.res.ty
  let isPartial := (ty.isFn && ty.fn.flags.unfinished) || (ty.isCls && (<- flagsOf ty).unfinished)
  return some {ent.res with draft := isPartial}
 action
 return (<- cacheEnt? node).map (·.res)

def loadedMod (name : String) : Nat -> ModUri -> Bool -> ByName LoadPlan -> Eval Ty
 | 0, _, _, _ => pure .unk
 | fuel + 1, uri, load, implicit => do
  let mut data := {name, uri}
  if load && !uri.isEmpty then
   let block <- if let some path := uri.path? then Evals.loadMod path else pure none
   let some block := block | data := {data with notPresent := some .unk}
   data := {data with scope := (((<- get).mods[block]?).join).map (·.scope)}
  for (part, actions) in implicit do
   let ty <- if actions.isLost == true then pure .unk
    else loadedMod (if name == "" then "" else name ++ "." ++ part) fuel actions.uri actions.load actions.implicit
   data := {data with loaded := data.loaded ++ [(part, <- makeSym {} ty)]}
  pure {form := .mod data, isInst := false}

def tyOfIntrinsic (intrinsic : String) : Eval Ty := do
 let node := decl.node
 if intrinsic == "Any" then return .any
 if intrinsic == "type[self]" then
  let some clsNode := (<- tree).enclCls? node | return .unk
  return ((<- Evals.tyOfCls clsNode).map fun res => (res.clsTy.selfVar true).asBound).getD .unk
 let str <- builtinObj node "str"
 let int <- builtinObj node "int"
 if !str.isObj || !int.isObj then return .unk
 match intrinsic with
 | "str" => pure str
 | "str | None" => return .combine [str, <- noneTy]
 | "int" => pure int
 | "MutableSequence[str]" =>
  let ty <- builtinTy node "MutableSequence"
  return if ty.isClsObj then (ty.spec [str]).clsInst else .unk
 | "Dict[str, Any]" => strDict .any
 | _ => pure .unk

def tyForDecl : Eval DeclTy := do
 let node := decl.node
 match decl.kind with
 | .intrinsic ty => pure {ty := (<- tyOfIntrinsic decl ty)}
 | .clsDef => pure {ty := (<- Evals.tyOfCls node).map (·.decorated)}
 | .fn _ => pure {ty := (<- Evals.tyOfFn node).map (·.decorated)}
 | .specialCls => if let .annot _ hint := node.kind then pure {ty := (<- Evals.tyOfAnnot hint {})} else pure {}
 | .tyAlias _ => pure {ty := (<- Evals.tyOfTyAlias node)}
 | .tyPar => pure {ty := (<- Evals.tyOfTyPar node)}
 | .importAlias .. => pure {}
 | .par _ =>
  let some parts := node.parParts? | pure {}
  let cmt := match <- parentKind? node with
   | some (.fnDef fn) => (fn.pars.findIdx? (· == node)).bind (Node.hintOfPar? fn)
   | _ => none
  let some hint := parts.hint.or (parts.hintCmt.or cmt) | pure {}
  let ty <- tyOfParHint hint parts.cat
  let ty <- boundAt node ty
  pure {ty := (<- manyTy node parts.cat (<- adjustParTy node parts ty))}
 | .variable data =>
  let some hint := data.hint | pure {}
  if data.isRuntimeHint then
   let ty := (<- Evals.tyWant hint {allowFinal := true, allowReq := true, allowReadOnly := true}).ty
   return {ty := ty.toInst}
  let tgt <- match data.isMemDefined, <- parent? node with
   | true, some parent => pure (if parent.kind matches .memAccess .. then parent else node)
   | _, _ => pure node
  let opts <- hintOpts tgt
  let allowReq := (<- tree).isReqAllowed tgt || ((<- parentKind? node) matches some (.dictKeyEnt ..))
  let mut ty <- Evals.tyOfAnnot hint {opts with
   allowReq, allowReadOnly := allowReq, clsTyVarsOnly := data.isMemDefined}
  if data.isMemDefined then
   if let some clsNode := (<- tree).enclCls? node then ty := (<- univ).freeVarsOf [.ofNode clsNode] ty
  return if ty.isObjOf "TypeAlias" then {isTyAlias := true} else {ty := ty}

def inferDecl (_sym : SymId) (id : DeclId) : Eval Ty? := do
 let some hit <- resolved? id | return some .unk
 let some decl := hit.decl | return some .unk
 if let some data := decl.asAlias? then
  let module? := match decl.node.kind with | .importAs mod _ => mod | _ => none
  if let some mod := module? then if let some ty := (<- cachedTy? mod).filter (·.isMod) then return ty
  let fallback := if data.symName.isSome then (fallbackOf? decl false).bind fun other =>
    other.asAlias?.map fun facts => (other.uri, facts) else none
  let (uri, data) := fallback.getD (decl.uri, data)
  let ty <- loadedMod decl.modName Node.maxHeight uri data.load data.implicit
  if let some mod := module? then writeTy mod ty
  return ty
 if let some ty := (<- tyForDecl decl).ty then return ty
 match decl.kind with
 | .par _ =>
  let some name := decl.node.parParts?.bind (·.name) | pure none
  return (<- tyOfSubnode? name (Evals.evalPar decl.node)).map (·.ty)
 | .variable data =>
  let some src := data.inferredSrc | pure none
  let isAlias <- isExplicitAlias decl <||> mayBeAliasOrTdict decl
  let src <- if isAlias then do pure ((<- parent? src).getD src) else pure src
  let ty := (<- tyOfSubnode? decl.node (Evals.evalStmt src)).map (·.ty)
  match ty, data.tyAliasName with
  | some ty, some name =>
   if isAlias && isAutoAliasTy ty then
    let (_, ref) <- aliasBlank name false
    return <- nameAlias ty decl.node ref false
   pure ty
  | _, _ => pure ty
 | _ => pure none

/-! Symbols. -/

def maxInferredDecls := 64
def maxTypedDecls := 16
def maxEffAttempts := 16

def includesVar := do
 match decl.kind with
 | .variable _ =>
  let file <- fileOf decl.node
  return !file.isTypingStub && !file.isTypingExtensionsStub
 | .par _ => pure true
 | _ => pure false

variable (sym : SymId) (usage : Node?) (useLast : Bool)
def declTyOfSym : Eval DeclTy := do
 if let some ty <- synthTy? sym then return {ty}
 let all := (<- symAt sym).decls.toList
 let typed <- all.filterM fun id => return (<- declAt id).hasTy
 if typed.isEmpty then return {ty := if all.length > maxInferredDecls then some .unk else none}
 let mut typed := typed
 let mut exceedsLimit := false
 if let some usage := usage then
  if typed.length > 1 then
   if typed.length > maxTypedDecls then
    typed := typed.getLast?.toList
    exceedsLimit := true
   else
    let scope <- execScope? usage
    typed <- typed.filterM fun id => do
     let decl <- declAt id
     if decl.asAlias?.isNone && (<- execScope? decl.node) == scope then isFlowPath decl.node usage false
     else pure true
    if typed.isEmpty then return {ty := some .unbound}
 for id in typed.reverse do
  if let some ty <- partialTy? sym id then return {ty}
  if (<- resolutionIdx? sym id).isNone then
   if <- pushResolution sym id then
    let decl <- declAt id
    let hit <- tyForDecl decl
    if (<- popResolution) || decl.kind matches .clsDef then return hit
 pure {exceedsLimit}

def tyOfDecls (decls : List Resolution) (key : String) : Eval EffTy := do
 let mut tys := []
 let mut isPending := false
 let mut draft := false
 let mut includesSpecul := false
 for hit in decls do
  let some decl := hit.decl | continue
  if <- pushResolution sym hit.id then
   let ty <- inferDecl sym hit.id
   if !(<- popResolution) then draft := true
   match ty with
   | none => draft := true
   | some ty =>
    let mut ty := ty
    if let some data := decl.asVar? then
     let isEnumItem <- if ty.isObj && (<- isEnum ty) then do
       let some clsNode := (<- tree).enclCls? decl.node true | pure false
       if let some owner <- Evals.tyOfCls clsNode then isEnum owner.clsTy else pure false
      else pure false
     if ty.isInst && !data.isConstant && !data.isFinal && !isEnumItem then
      if !(<- isExplicitAlias decl) then ty := (<- stripLit ty).stripTyForm
    tys := tys ++ [ty]
    if <- isSpecul decl.node then includesSpecul := true
  else
   if decl.kind matches .clsDef then if let some owner <- Evals.tyOfCls decl.node then tys := tys ++ [owner.decorated]
   draft := true
   isPending := true
 let attempts := ((<- get).effTys[(sym, key)]?).elim 0 (·.attempts) + 1
 if !tys.isEmpty then
  return {ty := .combine tys, draft := isPending && attempts < maxEffAttempts, includesSpecul, attempts}
 if (<- symFlags sym).clsVar then return {ty := .unk, includesSpecul, attempts}
 pure {ty := .unbound, draft, includesSpecul, attempts}

def inferTyOfSym : Eval EffTy := do
 let key := (usage.elim "." (toString ·.id)) ++ (if useLast then "*" else "")
 if let some known := ((<- get).effTys[(sym, key)]?).filter (!·.draft) then return known
 let remember res := modify fun s => {s with effTys := s.effTys.insert (sym, key) res}
 let ids := (<- symAt sym).decls.toList
 if ids.length > maxInferredDecls then
  let res := {ty := .unk}
  remember res
  return res
 let decls <- ids.mapM declAt
 let plain := ids.zip decls |>.filter (!·.2.inExcept)
 let only := if useLast then plain.getLast?.map (·.1)
  else if ids.length > 1 && decls.all (·.asAlias?.isSome) && plain.length == 1 then plain.head?.map (·.1) else none
 let mut considered := []
 let mut hasVar := false
 let mut sawAlias := false
 let isClsVar := actsAsClsVar (<- symFlags sym) false
 for id in ids do
  let decl <- declAt id
  let hit := (<- resolved? id).getD {id, decl}
  let tgt := hit.decl.getD decl
  let isExplicit <- isExplicitAlias tgt
  if <- includesVar tgt then hasVar := true
  if only.any (· != id) || sawAlias || (isClsVar && decl.isMemDefined) then continue
  if let some usage := usage then
   if decl.asAlias?.isNone && (<- execScope? usage) == (<- execScope? decl.node) then continue
  if isExplicit then sawAlias := true
  let isAlias <- pure isExplicit <||> mayBeAliasOrTdict tgt
  if isAlias then
   if let some src := tgt.asVar?.bind (·.inferredSrc) then
    if let some parent <- parent? src then
     if let .assignment lhs rhs .. := parent.kind then evalAssign parent lhs rhs
  considered := considered ++ [{hit with decl := tgt}]
 let anc <- tree
 if considered.all fun hit => hit.decl.any fun decl => decl.asVar?.isSome &&
   (anc.nearestOfKind? decl.node (·.kind matches .augmented ..)).isSome then considered := []
 let res <- tyOfDecls sym considered key
 let res := {res with includesVar := hasVar}
 if !res.includesSpecul then remember res
 pure res

def effTyOfSym : Eval EffTy := do
 if <- hasTypedDecls sym then
  let declared <- Evals.declTyOfSym sym usage
  if declared.ty.isSome || !declared.isTyAlias then
   let typed <- typedDecls sym
   let draft <- if let some ty := declared.ty then
     do pure ((ty.isFn && ty.fn.flags.unfinished) || (ty.isCls && (<- flagsOf ty).unfinished))
    else pure false
   return {ty := declared.ty.getD .unk, draft, includesVar := <- typed.anyM includesVar
           isRecursive := declared.ty.isNone && !declared.exceedsLimit && !(<- isSpecul none)}
 inferTyOfSym sym usage useLast

end TypeChecker.Infer
