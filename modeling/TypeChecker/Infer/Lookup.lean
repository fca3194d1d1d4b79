import TypeChecker.Infer.Builtin

/-! What a name means at a place, and the sources that are read and bound for it. A declaration that control cannot
have passed before the place does not count, so that the name then means what it does further out. Then the scopes of
type variables. -/

namespace TypeChecker

def builtinStubs := ["collections/__init__", "asyncio/futures", "asyncio/tasks",
 "builtins", "_importlib_modulespec", "dataclasses", "abc", "enum", "queue", "string/templatelib",
 "types", "warnings"]

def ImportPlaces.modName (places : ImportPlaces) (path : String) :=
 let name := (places.modOf path true).name
 if name.isEmpty then Path.stripExt (Path.fileName path) else name

def FileFacts.ofPath (project : Project) (origin : FileOrigin) (path : String) : FileFacts :=
 let isStub := path.endsWith ".pyi"
 let isNamed name := path.endsWith ("stdlib/" ++ name ++ ".pyi")
 let isExtensions := isStub && Path.fileName path == "typing_extensions.pyi"
 {path, isStub, modName := project.places.modName path, isTypedPkg := origin.isTyped, isNotebook := origin.isCell
  isTypingStub := isNamed "typing" || isExtensions, isTypingExtensionsStub := isExtensions
  isTypeshedStub := isNamed "_typeshed/__init__" || isNamed "_typeshed/_type_checker_internals"
  isBuiltinStub := builtinStubs.any isNamed
  ver := project.ver, platform := project.platform, rules := project.rules}

namespace Project
variable (project : Project)
def text? (path : String) := project.texts[path]?.or project.places.tree.files[path]?
def fileCount := project.texts.size + project.places.tree.files.size

variable (importer : FileOrigin)
def allows (res : ImportRes) (isStub : Bool) :=
 let isOutside := res.kind == .thirdParty || importer.isThirdParty && res.kind == .local
 !res.isNative && (!isOutside || isStub || project.usesLibraryCode ||
  res.kind == .thirdParty && res.marker.isSome || res.kind == .local && importer.isTyped ||
  if let some names := project.allowed then res.isRelative || names.any fun name =>
    res.name == name || res.name.startsWith (name ++ ".")
  else res.isNamespacePkg && res.filtered.any (·.isTyped))

def filesOf (results : List ImportRes) : ByName FileOrigin :=
 (results.filter (·.isHit)).flatMap fun res =>
  let isThirdParty := res.kind == .thirdParty || importer.isThirdParty && res.kind == .local
  let isTyped := if res.kind == .thirdParty then res.marker.isSome else isThirdParty && importer.isTyped
  let files := res.resolved.back?.toList.map (·, res.isStub) ++
   (res.filtered.filter (!·.isNative)).map fun item => (item.uri, item.isStub)
  files.filterMap fun (uri, isStub) =>
   if project.allows importer res isStub then uri.path?.map (·, {isThirdParty, isTyped}) else none

end Project
namespace Infer

def importNode (mod : ImportedMod) := if let .modName _ parts _ := mod.node.kind then
  if mod.nameParts.length == parts.length then mod.node else (parts[mod.nameParts.length - 1]?).getD mod.node
 else mod.node

def resolveImports (places : ImportPlaces) (path : String) (src : ParsedSrc) :=
 src.facts.imports.toList.map fun mod =>
  ((importNode mod).id, places.resolve path {leadingDots := mod.leadingDots, parts := mod.nameParts, syms := mod.syms})

def neededMods (src : ParsedSrc) (imports : List (Nat × ImportRes)) :=
 if !src.facts.hasWildcardImport then [] else imports.filterMap fun (_, res) => res.resolved.back?.bind (·.path?)

def builtinsPath (world : World) := world.project.places.lib ++ "/builtins.pyi"
def internalsPath (world : World) := world.project.places.lib ++ "/_typeshed/_type_checker_internals.pyi"

section
variable [Evals]
def bindMod (path text : String) (block : Nat) : Ask := do
 let world <- get
 let project := world.project
 let origin := world.origins.getD path {}
 let file := FileFacts.ofPath project origin path
 match parseSrc? (.ofString text)
   {isStub := file.isStub, ver := file.ver, cells := origin.isCell} (Anc.firstId block) with
 | .error _ => pure false
 | .ok src =>
  let file := {file with rules := (file.rules.ofCmts false src.tokenized).1}
  let hit := resolveImports project.places path src
  let files := origin.chained.toList.map (·, ({} : FileOrigin)) ++ project.filesOf origin (hit.map (·.2))
  modify fun s => {s with
   imports := s.imports.insertMany hit
   origins := ((builtinsPath s, {}) :: (internalsPath s, {}) :: files).foldl
    (fun origins (path, origin) => origins.insertIfNew path origin) s.origins
   importsOf := s.importsOf.insert path (files.map (·.1)).eraseDups}
  let builtins := builtinsPath world
  let needed := (if path == builtins then [] else [builtins]) ++ origin.chained.toList ++ neededMods src hit
  for path in needed do let _ <- Evals.loadMod path
  let world <- get
  let modAt path := (world.blockOfPath[path]?).bind fun block => (world.mods[block]?).join
  let res := bindSrc world.scopes src {
   block, file
   importOf := fun node => world.imports[node.id]?
   exportsOf := fun path => (modAt path).map (·.exports world.scopes)
   builtins := if path == builtins then none else ((origin.chained.bind modAt).or (modAt builtins)).map (·.scope)}
  match res with
  | .error _ => pure false
  | .ok (bound, scopes) =>
   modify fun s => {s with
    scopes, mods := s.mods.setIfInBounds block bound
    anc := s.anc.addTree src.tree src.nextId
    nextNodeIds := s.nextNodeIds.insert block src.nextId}
   pure true

def loadMod (path : String) : Eval Nat? := do
 let world <- get
 if let some block := world.blockOfPath[path]? then return if (world.mods[block]?).join.isSome then block else none
 if !world.origins.contains path && !path.startsWith world.project.places.lib then return none
 let some text := world.project.text? path | pure none
 let block := max 1 world.mods.size
 set {world with
  mods := (if world.mods.isEmpty then #[none] else world.mods).push none
  blockOfPath := world.blockOfPath.insert path block}
 return if <- bindMod path text block then block else none

def resolveMod (node : Node) (parts : Strings) : Eval String? := do
 let res := (<- get).project.places.resolve (<- fileOf node).path {parts}
 if !res.isHit || res.isNative then return none
 let path? := res.resolved.back?.bind (·.path?)
 for path in path?.toList.filter (!(<- get).origins.contains ·) do
  modify fun s => {s with origins := s.origins.insert path {}, added := s.added ++ [path]}
 pure path?

end
end Infer

def Lit.isTruthy : Lit Ty -> Bool
 | .int val _ => val != 0
 | .bool val => val
 | .text val => !val.isEmpty
 | .enum _ | .sentinel .. => true

namespace Infer
variable [Evals]

/-! The entries of typed dictionaries. -/

def entAnnots (sym : SymId) : Eval (List Typed) := do
 (<- declsOf sym).filterMapM fun decl => do
  if let some hint := decl.asVar?.bind (·.hint) then
   some <$> Evals.tyWant hint {allowFinal := true, allowReq := true, allowReadOnly := true}
  else pure none

def closedEnt : TdictEnt Ty := {valTy := .never, isReq := false, isReadOnly := false, isProvided := false}

def collectEnts : Nat -> Ty -> TdictEnts -> Eval TdictEnts
 | 0, _, ents => pure ents
 | fuel + 1, ty, ents => do
  let u <- univ
  let info := u.info ty
  let ents <- info.bases.foldlM (fun ents base => do
   if base.isClsObj && (u.flags base).tdict then collectEnts fuel (u.partlySpec base ty (<- tyCls?)) ents
   else pure ents) ents
  let ents <-
   if info.flags.tdictClosed then pure {ents with extra := closedEnt}
   else if let some expr := info.tdictExtraItems then do
     let res <- Evals.tyWant expr {allowReadOnly := true}
     let extra : TdictEnt Ty :=
      {valTy := res.ty.toInst, isReadOnly := res.isReadOnly, isReq := false, isProvided := true}
     pure {ents with extra := extra}
    else pure ents
  (<- fieldsOf ty).ents.toList.foldlM (fun ents (name, sym) => do
   if (<- symFlags sym).noProto then return ents
   if let some decl <- lastTypedDecl? sym then
    if decl.asVar?.isNone then return ents
    let valTy <- effTy sym
    let valTy := (<- univ).applySol valTy (u.solOf ty)
    let annots <- entAnnots sym
    let isReq :=
     if annots.any (·.isReq) then true
     else if annots.any (·.isNotReq) then false
     else !info.flags.canOmitDictVals
    let ent := {valTy, isReadOnly := annots.any (·.isReadOnly), isReq, isProvided := false}
    pure {ents with known := setEnt ents.known name ent}
   else pure ents) ents

def typedEnts (ty : Ty) (allowNarrowed : Bool := false) : Eval TdictEnts := do
 let info <- infoOf ty
 let ents <- if let some ents := info.typedEnts then pure ents
  else do
   let ents <- collectEnts (maxTyDepth + 1) ty {}
   let ents := if info.flags.tdictClosed && ents.extra.isNone then {ents with extra := closedEnt} else ents
   changeCls ty ({· with typedEnts := ents})
   pure ents
 let u <- univ
 let sol := u.solOf ty
 let apply ent := {ent with valTy := u.applySol ent.valTy sol}
 let known := ents.known.map fun (name, ent) =>
  let ent := apply ent
  (name, if ty.cls.isTdictPartial then
   if ent.isReadOnly then {ent with isReq := false, valTy := .never}
   else {ent with isReq := false, isReadOnly := true}
  else ent)
 let known := match allowNarrowed, ty.cls.narrowedEnts with
  | true, some narrowed => narrowed.foldl (fun known (name, ent) => setEnt known name (apply ent)) known
  | _, _ => known
 pure {known, extra := ents.extra.map apply}

def plainLitClasses := ["bool", "int", "str", "bytes"]

def boolMethIs (meth : ClsMem) (val : Bool) := do
 let ty <- tyOfMem meth
 return if let some retTy := ty.fn.declRet then ty.isFn && retTy.isObjOf "bool" &&
       (if let some (.bool hit) := retTy.lit? then hit == val else false)
  else false

/-- Whether an object can have the truth value. -/
def objCanBe (truth : Bool) (recur : Ty -> Ask) (ty : Ty) : Ask := do
 let u <- univ
 if ty.isInsta then return truth
 if truth then
  if ty.isNoneInst || ty.tupArgs? matches some [] then return false
 else
  if ty.isSentinel then return false
  if ty.isTup && ty.tupArgs?.isSome then return ty.isUnbTup || ty.tupArgs.isEmpty
  if let some tup := (u.mro ty).find? fun sup => !sup.isCls || sup.isTup then
   if tup.isCls && tup.tupArgs?.isSome then return tup.isUnbTup || tup.tupArgs.isEmpty
  if (u.flags ty).tdict then
   if (<- typedEnts ty true).known.any fun (_, ent) => ent.isReq || ent.isProvided then return false
 if let some lit := ty.lit? then
  if ty.isBuiltIn plainLitClasses then return lit.isTruthy == truth
  let .enum mem := lit | pure ()
  if mem.isReprEnum then return <- recur mem.itemTy
 if (u.flags ty).proto then return true
 if !truth then if (<- objMem? ty "__len__").isSome then return true
 let some meth <- objMem? ty "__bool__" | return truth || ty.isNamed "object"
 pure !(<- boolMethIs meth !truth)

def canBeIn (truth : Bool) : Nat -> Ty -> Ask
 | 0, _ => pure true
 | fuel + 1, ty => do
  let ty <- firm ty
  match ty.form with
  | .union mems _ _ => mems.anyM (canBeIn truth fuel)
  | .unbound => pure !truth
  | .fn _ | .ovld .. | .mod _ | .tyVar _ => pure truth
  | .cls _ => objCanBe truth (canBeIn truth fuel) ty
  | _ => pure true

variable (ty : Ty) (truth : Bool)
def canBe := canBeIn truth (maxTyDepth + 1)

/-- The part of a type without the values of the truth value. -/
def without (ty : Ty) := ty.mapM fun mem => do
 let hit <- firm mem
 if hit.isObj then
  match hit.lit? with
  | some (.enum _) => return if <- canBe truth hit then none else mem
  | some lit => return if lit.isTruthy == truth then none else mem
  | none => pure ()
  if hit.isNamed "bool" then return hit.setLit (some (.bool !truth))
  if truth then
   if hit.isNamed "int" then return hit.setLit (some (.int 0 false))
   if hit.isBuiltIn ["str", "bytes"] then return hit.setLit (some (.text #[]))
  else
   if hit.isNoneInst then return none
   if hit.isNamed "object" then return mem
 return if <- canBe (!truth) mem then mem else none

def isObjHashable : Ask := do
 if let some isHashable := (<- infoOf ty).isInstHashable then pure isHashable
 else
  let isHashable <- if let some mem <- objMem? ty "__hash__" {skipObjBase := true} then
    if !mem.isTyDecl then pure true
    else if let some made <- synthTy? mem.sym then pure (!made.isNoneInst)
     else pure (!(<- typedDecls mem.sym).all (·.asVar?.isSome))
   else pure true
  changeCls ty ({· with isInstHashable := isHashable})
  pure isHashable

def isHashable : Ask := do (<- firm ty).subtys.allM fun mem => pure !mem.isObj <||> isObjHashable mem

end Infer

def Decl.binder (decl : Decl) :=
 match decl.kind, decl.node.kind with
 | .clsDef, .clsDef parts | .fn _, .fnDef parts => parts.name
 | .tyAlias _, .tyAlias _ name _ _ => name
 | _, _ => decl.node

variable (world : ScopeWorld) (name : String)
def ScopeWorld.lookUpBeyond? (hit : HitSym) :=
 let scope := world.scope hit.scope
 let path := {hit.path with
  outsideMod := hit.path.outsideMod || scope.kind == .mod
  pastExec := hit.path.pastExec || scope.runsApart}
 let next : Option (ScopeId × LookUpPath) := match scope.kind with
  | .fn => none
  | .clsDef => (world.globalScope? hit.scope).map fun (id, isBeyond) =>
   (id, {path with pastExec := path.pastExec || isBeyond})
  | _ => scope.parent.map (·, path)
 next.bind fun (id, path) => world.lookUpIn name maxDepth false path id

def ScopeWorld.globalSymIn : Nat -> HitSym -> Option HitSym
 | 0, _ => none
 | fuel + 1, hit =>
  let scope := world.scope hit.scope
  match scope.kind, scope.parent with
  | .mod, _ | .builtin, _ => hit
  | .tyPar, _ | _, none => none
  | _, some parent => do
   let path := {hit.path with pastExec := hit.path.pastExec || scope.runsApart}
   globalSymIn fuel (<- world.lookUpIn name maxDepth false path parent)

namespace Infer

def tyVarScopesIn (anc : Anc) : Nat -> Node -> List TyScopeId
 | 0, _ => []
 | fuel + 1, node =>
  match anc.tyVarScope? node with
  | none => []
  | some scope => .ofNode scope :: if let some parent := anc.parent? scope then tyVarScopesIn anc fuel parent
   else []

variable (node : Node)
def tyVarScopes := return tyVarScopesIn (<- tree) Node.maxHeight node
def boundAt (ty : Ty) := return (<- univ).bindVarsOf (<- tyVarScopes node) ty

variable [Evals]
def declReaches (name : String) (decl : Decl) : Ask := do
 match decl.kind with
 | .importAlias .. | .intrinsic _ => pure true
 | _ =>
  let declared <- execScope? decl.binder
  let usage <- if let some scope <- execScope? node then do
    let id <- scopeIdOf? scope
    let world <- get
    let isProxy := id.any fun id =>
     (world.scopes.scope id).proxy.isSome && ((world.scopes.scope id).sym? name).isNone
    match isProxy, <- parent? scope with
    | true, some parent => execScope? parent
    | _, _ => pure scope
   else pure none
  if usage != declared then return true
  if <- isFlowPath decl.binder node then return true
  let some flow <- flowAt? node | pure true
  return (<- Evals.flowReach flow none true) != .reachable

def lookUpName (name : String) (honorFlow : Bool) (preferGlobal : Bool := false) : Eval (Option HitSym) := do
 let world <- get
 let some (scopeNode, useProxy) := world.anc.evalScope? (hasScope world) node
  | pure none
 let some scope <- scopeIdOf? scopeNode | pure none
 let some hit := world.scopes.lookUp? scope name useProxy | pure none
 let kind := (world.scopes.scope scope).kind
 let honors := honorFlow && kind != .fn && kind != .compr && (world.scopes.scope hit.scope).kind != .tyPar
 let hit <-
  if !honors then pure (some hit)
  else do
   if <- (<- declsOf hit.sym).anyM (declReaches node name) then pure hit
   else pure (world.scopes.lookUpBeyond? name hit)
 match preferGlobal, hit with
 | true, some hit => return ((<- get).scopes.globalSymIn name ScopeWorld.maxDepth hit).getD hit
 | _, _ => pure hit

def scopesIn (stop : ScopeId) : Nat -> Node -> List ScopeId -> Eval (Option (List ScopeId))
 | 0, _, _ => pure none
 | fuel + 1, node, inner => do
  let some scopeNode <- evalScope? node | pure none
  let some scope <- scopeIdOf? scopeNode | pure none
  let scopes := if inner.head? == scope then inner else scope :: inner
  if scope == stop then return scopes
  let some parent <- parent? scopeNode | pure none
  scopesIn stop fuel parent scopes

def topNodeIn? (scope : ScopeId) : Nodes -> Node? -> Eval Node?
 | [], _ => pure none
 | node :: outer, below => do
  if (<- scopeIdOf? node) == scope then topNodeIn? scope outer node
  else if let some below := below then return below else topNodeIn? scope outer none

def capturedFlow? (hit : HitSym) (eff : Ty) : Eval (Option FlowRes) := do
 if hit.path.usesGlobal || hit.path.usesNonlocal then return none
 let decls <- declsOf hit.sym
 let fits <- decls.allM fun decl => do
  match decl.kind with
  | .par _ => pure true
  | .variable facts =>
   if (<- scopeOf? decl.node) != hit.scope then return false
   return facts.isFinal || (<- scopeKindOf? decl.node) != some .mod
  | .importAlias .. => return (<- scopeOf? decl.node) == hit.scope
  | _ => pure false
 if !fits then return none
 let some (_ :: inner :: _) <- scopesIn hit.scope Node.maxHeight node [] | pure none
 let some scopeNode <- topNodeIn? inner ((<- tree).ancestors node) none | pure none
 if !(scopeNode.isFn || scopeNode.isLambda || scopeNode.isCls) then return none
 let some innerFlow <- flowAt? scopeNode | pure none
 let isSettled <- decls.allM fun decl => do
  match decl.kind, <- flowAt? decl.node with
  | .par _, _ => pure true
  | _, none => pure false
  | _, some flow => return (<- Evals.flowReach flow innerFlow true) != .reachable
 if !isSettled then return none
 let ty := if (<- symFlags hit.sym).startsUnbound then .unbound else eff
 some <$> Evals.flowTy node {sym := hit.sym, tyAtStart := ty, startNode := scopeNode}

def markRead (sym : SymId) (node : Node) : Act := do
 let block := Anc.blockOf sym
 let isOwn := block == 0 || block == Anc.blockOf node.id
 if (isOwn || (<- fileOf node).isNotebook) && !(<- isSpecul node) then
  modify fun world => if isOwn then {world with accessed := world.accessed.insert sym}
   else {world with accessedFrom := world.accessedFrom.insert (Anc.blockOf node.id, sym)}

structure ScopedVar where
 ty : Ty
 scope : Node? := none
 crossesCls := false

variable (node : Node)
def tyParsOf? :=
 match node.kind with
 | .clsDef parts | .fnDef parts => parts.tyPars
 | .tyAlias _ _ pars _ => pars
 | _ => none

def namesPar (pars : Node) (test : Node -> Bool) :=
 if let .tyParList pars := pars.kind then
  pars.any fun par => if let .tyPar name _ _ _ := par.kind then test name else false
 else false

def scopedParIn (ty : Ty) : Nat -> Nat -> Node -> Eval (Option ScopedVar)
 | 0, _, _ => pure none
 | fuel + 1, classes, node => do
  let some scope := (<- tree).tyVarScope? node | pure none
  let pars <- match scope.kind with
   | .clsDef _ => do
    let res <- Evals.tyOfCls scope
    let u <- univ
    pure <| res.elim [] fun res => if (u.flags res.clsTy).unfinished then [] else u.tyPars res.clsTy
   | .fnDef _ => pure ((<- Evals.undecorated scope).elim [] (·.fn.tyPars))
   | _ => pure []
  let classes := if scope.isCls then classes + 1 else classes
  let hit := pars.find? (·.shared.name == ty.shared.name)
  match hit.bind (·.var.scopeId), hit.bind (·.var.scopeName), hit.bind (·.var.owner) with
  | some id, some name, some owner =>
   return some {
    ty := ty.setVarScope id name owner, scope := scope
    crossesCls := decide (1 < classes) && (tyParsOf? scope).isNone}
  | _, _, _ =>
   let some parent <- parent? scope | pure none
   scopedParIn ty fuel classes parent

def aliasScope (node : Node) (ty : Ty) : Nodes -> Eval ScopedVar
 | [] => pure {ty}
 | scope :: outer => do
  let tgt := match scope.kind with
   | .tyAlias _ name _ _ => name
   | .assignment lhs _ _ _ => lhs
   | _ => none
  let cached <- if let some tgt := tgt then cachedTy? tgt else pure none
  let some ref := (cached.filter (·.isTyVar)).bind (·.shared.recAlias) | aliasScope node ty outer
  let inside := {scope, ty := ty.setVarScope ref.scopeId ref.name TyVarOwner.tyAlias}
  match scope.kind, ty.shared.isTyParSyntax || ty.aliasUse?.isSome with
  | .tyAlias _ name _ _, false =>
   blame "tyParNotDeclared" node [ty.shared.name, name.nameVal]
   pure inside
  | _, _ =>
   let isAllowed := ((<- univ).aliasAt ref.id).tyPars.all (·.any (·.shared.name == ty.shared.name))
   return if isAllowed then inside else {ty, scope}

variable (ty : Ty)
def findScopedVar := do
 let some hit <- scopedParIn ty Node.maxHeight 0 node | aliasScope node ty ((<- tree).ancestors node)
 pure hit

def scopeByUse (hit : ScopedVar) : Eval Ty := do
 let name := ty.shared.name
 let anc <- tree
 let some encl := anc.enclClsOrFn? node | pure ty
 let isSpecPart := if let some (.memAccess lhs mem) := anc.parentKind? node then
   lhs == node && ["args", "kwargs"].contains mem.nameVal
  else false
 let encl <- match isSpecPart, anc.enclClsOrFn? encl with
  | true, some outer =>
   if outer.isFn then pure outer
   else do
    if hit.ty.var.scopeId.isNone then blame "sigNotOuter" node [name]
    pure encl
  | true, none =>
   blame "sigNotOuter" node [name]
   pure encl
  | false, _ => pure encl
 let box := match encl.kind with
  | .clsDef parts | .fnDef parts => parts.name.nameVal
  | _ => ""
 if (tyParsOf? encl).any fun pars => !namesPar pars (·.nameVal == name) then
  blame "tyParNotDeclared" node [name, box]
 return ty.setVarScope (.ofNode encl) box (some (if encl.isFn then .fn else .clsDef))

variable (flags : EvalFlags)
def assignVarScope : Eval Ty := do
 let hit <- findScopedVar node ty
 let ty := hit.ty
 let shared := ty.shared
 let isScoped := ty.var.scopeId.isSome
 let blamed := do
  blame "tyVarOuter" node [shared.name]
  pure ty
 if flags.noTyVarWithScopeId && isScoped then
  if shared.isSynth || ty.isSigVar || shared.isTyParSyntax then return ty
  let pars := ((<- tree).tyVarScope? node).bind tyParsOf?
  return <- if pars.any (!namesPar · (· == node)) then pure ty else blamed
 if flags.bindsTyVars then
  return <- if isScoped then pure ty else if hit.crossesCls then blamed else scopeByUse node ty hit
 if !flags.allowUnscopedVar && !(isScoped && !hit.crossesCls) && !shared.isSynth && flags.instaTy then
  report .general (if ty.isSigVar then
   say "sigNotOuter" [shared.name]
   else say "tyVarNotOuter" [shared.name]) node
 pure ty

def isInClsScope : Ask := do
 let scope := (ty.var.free.bind (·.var.scopeId)).or ty.var.scopeId
 match scope, (<- tree).enclCls? node with
 | some scope, some clsNode =>
  if (<- tyVarScopes clsNode).contains scope then return true
  blame "tyVarBadForMemVar" node [ty.var.readableName]
  pure false
 | _, _ => pure true

def usedVar : Eval Ty := do
 if !ty.isInsta || (<- univ).isHole ty then return ty
 let ty <- if ty.var.scopeId.isNone then assignVarScope node ty flags else pure ty
 let anc <- tree
 let ty <-
  if ty.var.scopeId.isNone || ty.isBoundVar then pure ty
  else match (<- findScopedVar node ty).scope, anc.enclClsOrFnSuite? node with
   | some scope, some suite =>
    pure (if anc.isWithin suite scope && !(scope.clsParts?.any (·.suite == suite)) then ty.asBound else ty)
   | _, _ => pure ty
 let ty := if ty.isUnpTupVar then ty.packVar else ty
 if flags.clsTyVarsOnly then if !(<- isInClsScope node ty) then return .unk
 pure ty

end Infer
end TypeChecker
