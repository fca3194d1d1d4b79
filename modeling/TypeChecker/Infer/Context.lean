import TypeChecker.Infer.State

/-! Reading and changing the state of evaluation: nodes and their files, symbols, the types of nodes,
evaluations that are only tried, and reporting. -/

namespace TypeChecker.Infer
open Evals Node

/-! The world. -/

def univ : Eval Univ := return (<- get).catalog
def infoOf (ty : Ty) : Eval ClsInfo := return (<- univ).info ty
def flagsOf (ty : Ty) : Eval ClsFlags := return (<- infoOf ty).flags
def tree : Eval Anc := return (<- get).anc

variable (node : Node)
def parent? : Eval Node? := return (<- get).anc.parent? node
def parentKind? : Eval (Option (NodeKind Node)) := return (<- get).anc.parentKind? node
def bound? : Eval (Option BoundMod) := return ((<- get).mods[Anc.blockOf node.id]?).join
def fileOf : Eval FileFacts := return (<- bound? node).elim {} (·.file)
def inStub : Ask := return (<- fileOf node).isStub

def staticFacts : Eval StaticFacts := do
 let file <- fileOf node
 pure {ver := file.ver, platform := file.platform, constants := file.constants}

def rulesOf : Eval RuleSet := return (<- fileOf node).rules
def isOn (switch : Switch) : Ask := return (<- rulesOf node).isOn switch

variable (world : World)
def hasScope (node : Node) := ((world.mods[Anc.blockOf node.id]?).join).any (·.nodeScope.contains node.id)
def scopeIdOf? : Eval ScopeId? := return (<- bound? node).bind (·.nodeScope[node.id]?)

def evalScope? : Eval Node? := do
 let world <- get
 return (world.anc.evalScope? (hasScope world) node).map (·.1)

def execScope? : Eval Node? := do
 let world <- get
 return world.anc.execScope? (hasScope world) node

def scopeOf? : Eval ScopeId? := do
 let some scope <- evalScope? node | pure none
 scopeIdOf? scope

def scopeKindOf? : Eval (Option ScopeKind) := do
 let scope <- scopeOf? node
 let world <- get
 return scope.map fun id => (world.scopes.scope id).kind

def isInsideIn (anc : Anc) (box : Nat) : Nat -> Node -> Bool
 | 0, _ => false
 | fuel + 1, node =>
  node.id == box || (anc.parent? node).any (isInsideIn anc box fuel)

def isInside (box : Node) : Ask := return isInsideIn (<- tree) box.id maxHeight node

/-! Classes and symbols. -/

variable (ty : Ty)
def changeCls (change : ClsInfo -> ClsInfo) : Act :=
 modify fun s => {s with catalog.classes := s.catalog.classes.modify ty.cls.ref.id change}

def changeFlags (change : ClsFlags -> ClsFlags) := changeCls ty fun info => {info with flags := change info.flags}

def makeCls (ref : ClsRef) (info : ClsInfo) : Eval Ty := do
 let id := (<- univ).classes.size
 modify fun s => {s with catalog.classes := s.catalog.classes.push info}
 return .ofCls {ref with id, isBuiltIn := info.flags.builtIn}

variable (id : SymId)
def symAt : Eval Sym := return (<- get).scopes.sym id
def symFlags : Eval SymFlags := return (<- symAt id).flags
def declAt (id : DeclId) : Eval Decl := return (<- get).scopes.decl id
def declsOf : Eval (List Decl) := return ((<- get).scopes.declsOf id).toList
def typedDecls : Eval (List Decl) := return (<- declsOf id).filter (·.hasTy)
def lastTypedDecl? : Eval (Option Decl) := return (<- typedDecls id).getLast?
def synthTy? : Eval Ty? := return (<- get).synth[id]?

def hasTypedDecls : Ask := do if (<- get).synth.contains id then return true else return (<- declsOf id).any (·.hasTy)

variable (res : Typed) (name : String) (flags : SymFlags)
def makeSym (ty : Ty) : Eval SymId := do
 let id := ((<- get).scopes.blocks.getD 0 default).syms.size
 modify fun s => {s with
  scopes := s.scopes.modifyTables 0 fun tables => {tables with syms := tables.syms.push {flags}}
  synth := s.synth.insert id ty}
 pure id

def declareSym (node hint : Node) (isRuntimeHint : Bool) : Eval SymId := do
 let file <- fileOf node
 let range := (<- bound? node).elim default (·.src.lines.rangeOf node)
 let (decl, scopes) := (<- get).scopes.addDecl 0
  {kind := .variable {hint, isRuntimeHint}, node, uri := .file file.path, range
   modName := file.modName, inExcept := false}
 let id := (scopes.blocks.getD 0 default).syms.size
 modify fun s => {s with
  scopes := scopes.modifyTables 0 fun tables => {tables with syms := tables.syms.push {flags, decls := #[decl]}}}
 pure id

def setField (sym : SymId) := changeCls ty fun info => {info with fields := info.fields.set name sym}
def addField (fieldTy : Ty) : Act := do setField ty name (<- makeSym flags fieldTy)
def clsMemFlags : SymFlags := {clsMem := true}
def freshVarId : Eval Nat := modifyGet fun world => (world.nextVarId, {world with nextVarId := world.nextVarId + 1})

/-! Signatures. Several uses of one generic function in an expression get type variables of their own. -/

def sigUses? : Eval Nat? := do
 let world <- get
 return world.sigs.findIdx? fun (_, root) => isInsideIn world.anc root.id maxHeight node

@[inline] def trackingSigs {α : Type} (node : Node) (action : Eval α) : Eval α := do
 if (<- sigUses? node).isSome then return <- action
 modify fun s => {s with sigs := ([], node) :: s.sigs}
 let res <- action
 modify fun s => {s with sigs := s.sigs.drop 1}
 pure res

def uniqueSig (node : Node) : Eval Ty := do
 if !ty.isRoutine then return ty
 let some idx <- sigUses? node | pure ty
 let world <- get
 let uses := world.sigs[idx]?.elim [] (·.1)
 let (ty, uses) := world.catalog.makeSigsUnique uses node.start ty
 set {world with sigs := world.sigs.modify idx fun (_, root) => (uses, root)}
 pure ty

/-! Trying. -/

def isSpeculAmong (anc : Anc) (node : Node) (ignoreAllowed : Bool) (ctxs : List SpeculCtx) :=
 ctxs.any fun ctx => (!ignoreAllowed || !ctx.allowDiags) && isInsideIn anc ctx.root.id maxHeight node

def isSpecul (node : Node?) (ignoreAllowed : Bool := false) : Ask := do
 let world <- get
 if world.guess.isEmpty then pure false
 else if let some node := node then return isSpeculAmong world.anc node ignoreAllowed world.guess else pure true

def undoSlot : CacheSlot -> World
 | .ty 0 node => {world with tys := world.tys.erase node}
 | .ty cache node =>
  if cache == world.localCache then {world with localTys := world.localTys.map (·.erase node)} else world
 | .flow cache node => { world with flowCaches := world.flowCaches.modify cache fun hit =>
  {hit with ents := hit.ents.erase node}}

def leaveGuess :=
 match world.guess with
 | [] => world
 | ctx :: rest =>
  let world := {world with
   guess := rest
   dependentTys := if ctx.dependentTy.isSome then world.dependentTys.dropLast else world.dependentTys}
  ctx.undo.foldl undoSlot world

@[inline] def trying {α : Type} (node : Node?) (action : Eval α)
  (dependentTy : Ty? := none) (allowDiags : Bool := false) : Eval α := do
 if let some root := node then
  modify fun s => {s with
   guess := {root, dependentTy, allowDiags} :: s.guess
   dependentTys := if let some ty := dependentTy then s.dependentTys ++ [(root, ty)] else s.dependentTys}
  let res <- action
  modify leaveGuess
  pure res
 else action

@[inline] def withoutGuess {α : Type} (action : Eval α) : Eval α := do
 let saved := (<- get).guess
 modify ({· with guess := []})
 let res <- action
 modify ({· with guess := saved})
 pure res

def trackSlot (slot : CacheSlot) : Act :=
 modify fun world => match world.guess with
  | [] => world
  | ctx :: rest => {world with guess := {ctx with undo := slot :: ctx.undo} :: rest}

def usersMatch (lhs rhs : List (Node × Ty)) :=
 lhs.length == rhs.length && (lhs.zip rhs).all fun (lhs, rhs) => lhs.1 == rhs.1 && lhs.2.isSame rhs.2

variable (want : Ty?)
def addSpeculTy : Act :=
 modify fun world =>
  let old := (world.speculTys.getD node.id []).filter fun ent =>
   if ent.res.draft && ent.epoch != world.epoch then false
   else match want, ent.want with
    | some want, some known => !known.isSame want
    | some _, none => true
    | none, known => known.isSome
  let new := {res, want, epoch := world.epoch, users := world.dependentTys}
  {world with speculTys := world.speculTys.insert node.id (old ++ [new])}

def speculTy? : Eval (Option SpeculEnt) := do
 let world <- get
 if world.guess.isEmpty then return none
 let some ents := world.speculTys[node.id]? | pure none
 if isSpeculAmong world.anc node false world.guess then
  return ents.find? fun ent =>
   (match want, ent.want with
    | none, none => true
    | some want, some known => want.isSame known
    | _, _ => false) && usersMatch ent.users world.dependentTys
 else pure none

/-! The types of nodes. -/

def isInRetCtx (node : Node) :=
 if let ctx :: _ := world.retContexts then isInsideIn world.anc ctx.fn.id maxHeight node else false

def withHitRet (ent : CacheEnt) :=
 if let .fn data := ent.res.ty.form then
  match data.decl, data.statedRet? <|> data.inferredRet with
  | some id, none =>
   if world.retAttempts.contains id || !world.catalog.returns.contains id then ent
   else {ent with res := {ent.res with
    ty := ent.res.ty.withFn ({· with inferredRet := world.catalog.returns[id]?})}}
  | _, _ => ent
 else ent

def cacheEnt? : Eval (Option CacheEnt) := do
 let world <- get
 let tys := if let some tys := world.localTys then
   if isInRetCtx world node then tys else world.tys
  else world.tys
 return tys[node.id]?.map (withHitRet world)

def isTyCached : Ask := do
 let some ent <- cacheEnt? node | pure false
 return !ent.res.draft || ent.epoch == (<- get).epoch

def cachedTy? : Eval Ty? := do
 let some ent <- cacheEnt? node | pure none
 return if ent.res.draft then none else ent.res.ty

def writeTy (want : Want? := none) (allowSpecul : Bool := false) : Act := do
 let usesLocal <- modifyGet fun world => (world.localTys.isSome && isInRetCtx world node, world)
 let isNews <-
  if res.draft then do
   pure ((<- cacheEnt? node).any (!res.ty.isSame ·.res.ty))
  else pure true
 let slot <- modifyGet fun world =>
  let epoch := if isNews then world.epoch + 1 else world.epoch
  let ent := {res, epoch}
  if usesLocal then
   (.ty world.localCache node.id, {world with
    epoch, localTys := world.localTys.map (·.insert node.id ent)})
  else (.ty 0 node.id, {world with epoch, tys := world.tys.insert node.id ent})
 if <- isSpecul node then
  trackSlot slot
  if allowSpecul then addSpeculTy node res (want.map (·.ty))

/-! Symbols that are being resolved. -/

variable (sym : SymId) (decl : DeclId)
def resolutionIdx? : Eval Nat? := return (<- get).resolutions.findIdx? fun ent => ent.sym == sym && ent.decl == decl

def pushResolution : Ask := do
 if let some idx <- resolutionIdx? sym decl then
  modify fun s => { s with resolutions := s.resolutions.mapIdx fun at' ent =>
   if idx < at' then {ent with isValid := false} else ent}
  pure false
 else
  modify fun s => {s with resolutions := s.resolutions.push {sym, decl}}
  pure true

def popResolution : Ask := modifyGet fun world =>
 (world.resolutions.back?.any (·.isValid), {world with resolutions := world.resolutions.pop})

def setPartialTy (ty : Ty) : Act := do
 let some idx <- resolutionIdx? sym decl | pure ()
 modify fun s => {s with resolutions := s.resolutions.modify idx ({· with partialTy := ty})}

def partialTy? := do
 let some idx <- resolutionIdx? sym decl | pure none
 return ((<- get).resolutions[idx]?).bind (·.partialTy)

/-! Reporting. -/

@[inline] def muting {α : Type} (node : Node) (collects : Bool) (action : Eval α) : Eval (α × Array String) := do
 modify fun s => {s with muted := {node, msgs := if collects then some #[] else none} :: s.muted}
 let res <- action
 let msgs <- modifyGet fun world => match world.muted with
  | ent :: rest => (ent.msgs.getD #[], {world with muted := rest})
  | [] => (#[], world)
 pure (res, msgs)

def isMuted := do
 if <- isSpecul node true then pure true
 else
  let world <- get
  return world.muted.any (isInsideIn world.anc ·.node.id maxHeight node)

def canSkipDiag : Ask := do
 if <- isSpecul node true then pure true
 else
  let world <- get
  let ents := world.muted.filter (isInsideIn world.anc ·.node.id maxHeight node)
  return !ents.isEmpty && ents.all (·.msgs.isNone)

def addToSink (cat : DiagCat) (msg : String) (span : Span) (rule : String? := none) : Act := do
 let some bound <- bound? node | return
 let range := bound.src.lines.rangeOf span
 let add sink := (sink.getD {}).add {cat, msg, range, rule}
 modify fun s => {s with sinks := s.sinks.alter bound.block add}

def collectMuted (msg : String) : Act :=
 modify fun world =>
  -- The outermost place that collects gets the message.
  let wants ent := ent.msgs.isSome && isInsideIn world.anc ent.node.id maxHeight node
  if let some idx := world.muted.reverse.findIdx? wants then
   let place := world.muted.length - 1 - idx
   {world with muted := world.muted.mapIdx fun at' ent =>
    if at' == place then {ent with msgs := ent.msgs.map (·.push msg)} else ent}
  else world

section
variable [Evals]
def clsTyOf? : Node? -> Eval Ty?
 | some clsNode => return (<- tyOfCls clsNode).map (·.clsTy)
 | none => pure none

variable (node : Node) (sym : SymId) (dest src : Ty) (rule : Rule) (msg : String)
def reportSpan (span : Span) := do
 let some cat := ((<- rulesOf node).level rule).cat? | pure ()
 addToSink node cat msg span rule.name

/-! Flow of control. -/

def flowIn (table : BoundMod -> Std.HashMap Nat FlowId) (node : Node) :=
 return (<- bound? node).bind fun bound => (table bound)[node.id]?.map (Anc.firstId bound.block + ·)

def flowAt? := flowIn (·.nodeFlow) node
def maxFlowCost := 768000

def isTooComplex : Ask := do
 let scope <- if node.isFn then pure (some node) else execScope? node
 let some scope := scope | pure false
 if (((<- bound? node).bind (·.nodeCost[scope.id]?)).getD 0) <= maxFlowCost then return false
 let span := match scope.kind with
  | .fnDef parts => parts.name.span
  | .modNode _ => default
  | _ => scope.span
 reportSpan node .general (say "codeTooComplex") span
 pure true

def reachIn (src : Option FlowId) : Nat -> Node -> Eval Reach
 | 0, _ => pure .structural
 | fuel + 1, node => do
  if <- isTooComplex node then return .reachable
  if let some flow <- flowAt? node then flowReach flow src false
  else
   let some parent <- parent? node | pure .structural
   reachIn src fuel parent

def reachOf (src : Node? := none) : Eval Reach := do
 reachIn (<- if let some src := src then flowAt? src else pure none) maxHeight node

def isReachable (src : Node? := none) : Ask := return (<- reachOf node src) == .reachable

def isFlowPath (src sink : Node) (allowSelf : Bool := true) : Ask := do
 if <- isTooComplex src then return true
 match <- flowAt? src, <- flowAt? sink with
 | some src, some sink => if src == sink then pure allowSelf else return (<- flowReach sink src true) == .reachable
 | _, _ => pure false

def addUnlessMuted (cat : DiagCat) (msg : String) (node : Node)
  (span : Span) (rule : String? := none) : Ask := do
 if <- isMuted node then
  collectMuted node msg
  pure false
 else if <- isReachable node then
  addToSink node cat msg span rule
  pure true
 else pure false

def isExemptFn (fn : Node) := do
 let .fnDef parts := fn.kind | pure false
 let exempt <- pure (!(<- isOn node .analyzeBareFns) && isUnannotated parts) <&&> isInside node parts.suite
 if exempt then return true
 return (<- decoFacts fn ((<- tree).enclCls? fn true).isSome).flags.noTyCheck

variable (node : Node)
def reportAt (span : Span) := do
 let some cat := ((<- rulesOf node).level rule).cat? | pure false
 let exempt <- if let some fn := (<- tree).enclFn? node then isExemptFn node fn else pure false
 if exempt then return false
 addUnlessMuted cat msg node span rule.name

def report (span : Span? := none) : Act := discard (reportAt rule msg node (span.getD node.span))

def flag (name : String) (node : Node) (vals : Strings := []) (notes : Adden := .empty)
  (span : Span? := none) : Act := report rule (say name vals ++ notes.print) node span

def blame (name : String) (node : Node) (vals : Strings := []) (notes : Adden := .empty) : Act :=
 flag .general name node vals notes

def reportInformation := discard (addUnlessMuted .information msg node node.span)
def reportDeprecated : Act := do if !(<- isMuted node) then addToSink node .deprecated msg node

/-! Shorter names for what is evaluated elsewhere. -/

def tyOf (flags : EvalFlags := {}) (want : Want? := none) := tyOfExpr node flags want
def printTy (ty : Ty) (flags : PrintFlags := {}) := Evals.printTy flags ty
def effTy := return (<- effTyOfSym sym none false).ty
def declTy? (usage : Node? := none) := return (<- declTyOfSym sym usage).ty
def assign (flags : AssignFlags := {}) (depth : Nat := 0) := Evals.assign dest src flags depth
def canAssign (flags : AssignFlags := {}) (depth : Nat := 0) : Ask := Match.plain (assign dest src flags depth)

end
end TypeChecker.Infer
