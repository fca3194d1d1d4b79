import TypeChecker.Infer.Narrow.Pattern
import TypeChecker.Infer.Call.Overload
import TypeChecker.Infer.Declaration

/-! The flow of types: what functions return that do not say so, what is known about a reference at a point of the
flow graph, and whether the point is reached at all. -/

namespace TypeChecker.Infer
variable [Evals]
def maxRetRecursion := 12
def maxRetAttempts := 8
def maxRetCost := 32000
def maxCallSiteCost := 8000
def maxCallSiteArgs := 6
def maxCallSiteDepth := 2
def maxCallSiteReturns := 8

variable (node : Node)
def isAfterLive : Ask := return (<- Evals.afterReach node) == .reachable

def yieldedTys (yields : Nodes) : Eval (Tys × Bool × Bool) := do
 let mut tys := []
 let mut isUsed := false
 let mut isAwaitable := false
 for node in yields do
  if !(<- isReachable node) then continue
  match node.kind with
  | .yieldFrom expr =>
   isUsed := true
   let res <- tyOf expr
   if res.ty.isObjIn ["Coroutine", "CoroutineType"] then
    tys := tys ++ [res.ty.tyArgs.headD .unk]
    isAwaitable := true
   else tys := tys ++ [<- iteratedTy res false node]
  | .yieldExpr val =>
   if !((<- parentKind? node) matches some (.stmtList ..)) then isUsed := true
   tys := tys ++ [<- match val with | some val => do pure (<- tyOf val).ty | none => noneTy]
  | _ => pure ()
 pure (tys, isUsed, isAwaitable)

def tyOfReturns (parts : FnParts Node) (isAbs : Bool) : Eval Typed := do
 let decl <- ((<- bound? node).bind (·.nodeDecl[node.id]?)).mapM declAt
 let neverReturns := !(<- isAfterLive node)
 let endsPlainly <- isAfterLive parts.suite
 if <- inStub node then return .unk
 let fn := (decl.bind (·.asFn?)).getD {isMeth := false}
 let mut draft := false
 let mut ty := .noReturn
 if neverReturns then
  let isUnk <- if isAbs then pure true else if let some decl := decl then isNeverImplemented decl else pure false
  if isUnk then ty := .unk
 else
  let mut tys := []
  for stmt in fn.returns do
   if <- isReachable stmt then
    let .returnStmt val := stmt.kind | continue
    let some val := val | tys := tys ++ [<- noneTy]
    let res <- tyOf val
    draft := draft || res.draft
    let ret := (res.ty.special?.getD res.ty).map fun mem =>
     some (if mem.isObj && mem.cls.isEmptyContainer then mem.withCls ({· with isEmptyContainer := false}) else mem)
    tys := tys ++ [ret.stripTyForm]
  if endsPlainly then tys := tys ++ [<- noneTy]
  ty := (Ty.combine tys).removeUnbound
 if fn.isGen then
  let (yields, isUsed, isAwaitable) <- yieldedTys fn.yields.toList
  let gen <- if isAwaitable then do
    let some hit <- internalsTy? node "AwaitableGenerator" | typingTy? node "AwaitableGenerator"
    pure (some hit)
   else typingTy? node "Generator"
  ty := match gen.filter (·.isClsObj) with
   | some gen => (gen.spec (some ([.combine yields, if isUsed then .unk else .any, ty] ++
     (if isAwaitable then [.any] else [])))).clsInst
   | none => .unk
 pure {ty, draft}

def bodyRet? (isAbs : Bool) (caller : Node?) : Eval Typed? := do
 let some parts := node.fnParts? | pure none
 if parts.retHint.isSome || parts.hintCmt.isSome then return none
 if let some ty <- cachedTy? parts.suite then return ty
 let recursion := (<- get).fnRecursion
 let callers := recursion[node.id]?.getD []
 let caller := caller.map (·.id)
 if recursion.size >= maxRetRecursion || callers.contains caller then return some {ty := .unk, draft := true}
 modify fun s => {s with fnRecursion := s.fnRecursion.insert node.id (caller :: callers)}
 let res <- tyOfReturns node parts isAbs
 writeTy parts.suite res
 modify fun s => {s with fnRecursion := if callers.isEmpty then s.fnRecursion.erase node.id
                                                else s.fnRecursion.insert node.id callers}
 pure res

def costOf := return ((<- bound? node).bind (·.nodeCost[node.id]?)).getD 0

variable (ty : Ty) (site : Option CallSite)
def callSiteRet? (site : CallSite) : Eval Ty? := do
 let some id := ty.fn.decl | pure none
 let node := (<- declAt id).node
 let some parts := node.fnParts? | pure none
 if (<- costOf node) >= maxCallSiteCost || site.args.any (·.parName.isNone) ||
   (<- get).retContexts.any (·.fn == node) then return none
 let some fn <- Evals.tyOfFn node | pure none
 if site.args.length > maxCallSiteArgs || (<- get).retContexts.length >= maxCallSiteDepth then return none
 let strips := (<- tree).isInLoop site.site
 let data := fn.fnTy.fn
 let infer : Eval (Option (Ty × Tys × Bool)) := do
  let mut tys := []
  let mut isKnown := false
  for (par, idx) in parts.pars.zipIdx do
   let some par := par.parParts? | continue
   let some name := par.name | continue
   let mut ty := .unk
   if let some val := ((site.args.find? (·.parName == some name.nameVal)).bind (·.arg.val)).or par.dfltVal then
    ty := (<- tyOf val).ty
    isKnown := isKnown || !ty.isUnk
   else if idx == 0 && (data.isInstMeth || data.flags.clsMeth) && !data.pars.isEmpty then ty := fn.fnTy.parTy 0
   if strips then ty := (<- runtimeVal (<- stripLit ty) {} true).stripTyForm
   tys := tys ++ [ty]
   writeTy name ty
  if !isKnown then return none
  if let some ent := ((<- get).callSiteReturns.getD id []).find? fun ent =>
    ent.parTys.length == tys.length && (ent.parTys.zip tys).all fun (lhs, rhs) => lhs.isSame rhs then
   return (ent.retTy, tys, true)
  return (<- bodyRet? node ty.fn.flags.absMeth site.site).map fun res => (res.ty, tys, false)
 let (hit, _) <- muting node false do
  let before := ((<- get).localTys, (<- get).localCache)
  modify fun s => {s with
   retContexts := {fn := node, analyzer := s.analyzers.size} :: s.retContexts
   analyzers := s.analyzers.push {}, localTys := some {}, localCache := s.nextCache, nextCache := s.nextCache + 1}
  let hit <- infer
  modify fun s => {s with retContexts := s.retContexts.drop 1, localTys := before.1, localCache := before.2}
  pure hit
 let some (ret, tys, isKnown) := hit | pure none
 let ret := ret.removeUnbound
 if !isKnown then
  modify fun world =>
   let known := world.callSiteReturns.getD id []
   let known := if known.length >= maxCallSiteReturns then known.drop 1 else known
   {world with callSiteReturns := world.callSiteReturns.insert id (known ++ [{parTys := tys, retTy := ret}])}
 pure ret

def inferredRet : Eval Typed := do
 let data := ty.fn
 if data.flags.stub || data.flags.sigVal || (data.flags.ovld && !data.flags.synth) then return .unk
 let world <- get
 let attempts := (data.decl.bind (world.retAttempts[·]?)).getD 0
 let mut draft := false
 let mut ret := .unk
 if let some known := (<- univ).inferredRet? data then
  if attempts == 0 || data.inferredRet.isSome then ret := known else draft := true
 else draft := true
 if draft then
  draft := false
  if attempts <= maxRetAttempts then
   if data.isInstMeth && data.name == "__init__" then ret <- noneTy
   else if let some id := data.decl then
    let node := (<- declAt id).node
    if let some parts := node.fnParts? then
     let isSkipped := !(<- isOn node .analyzeBareFns) && Node.isUnannotated parts
     if !isSkipped && !(<- isTooComplex parts.suite) then
      if data.pars.length <= 1 || data.pars.any (·.isTyDecl) || (<- costOf node) < maxRetCost then
       if let some res <- withoutGuess (bodyRet? node data.flags.absMeth (site.map (·.site))) then
        ret := res.ty
        draft := res.draft
   ret := (<- univ).freeVarsOf (data.scopeId.toList ++ (data.methCls.bind (·.cls.ref.scopeId)).toList) ret
   if let some id := data.decl then
    modify fun s => {s with
     catalog := {s.catalog with returns := s.catalog.returns.insert id ret}
     retAttempts := if draft then s.retAttempts.insert id (attempts + 1) else s.retAttempts.erase id}
 if let some site := site then
  if !draft && data.flags.barePars && !data.flags.typedPkg && (<- univ).isPartlyUnk ret then
   let node <- data.decl.mapM fun id => return (<- declAt id).node
   let parts := node.bind (·.fnParts?)
   if !parts.any fun parts => !parts.decos.isEmpty || parts.isAsync then
    if let some hit <- callSiteRet? ty site then
     ret <- if let some node := node then do pure ((<- univ).freeVarsOf (<- tyVarScopes node) hit) else pure hit
 pure {ty := ret, draft}

def inferRet : Eval Typed := do
 let some stated := ((<- univ).effRet? ty.fn false).filter (!·.isUnk) | inferredRet ty site
 pure stated

/-! Calls and context managers. -/

def isCoro (ty : Ty) := ty.isObjIn ["Coroutine", "CoroutineType"] && ty.tyArgs.length >= 3

def sigNeverReturns (isAwaited : Bool) (ty : Ty) : Ask := do
 let some ret := (<- univ).effRet? ty.fn false | pure false
 return ret.isNever || isAwaited && isCoro ret && (ret.tyArgs.getD 2 .unk).isNever

def neverReturns (node : Node) : Ask := do
 let .call callee args _ := node.kind | pure false
 if <- inStub node then return false
 if let some known := (<- get).noReturnCalls[node.id]? then return known
 if (<- get).noReturnDepth > maxTyDepth || callee.isLambda then return false
 modify fun s => {s with noReturnCalls := s.noReturnCalls.insert node.id false, noReturnDepth := s.noReturnDepth + 1}
 let res <- tyOf callee .base
 let isAwaited := (<- parentKind? node) matches some (.await ..)
 let never part := do
  let mut part := part
  if part.isClsObj then
   if (<- mclsCall? node part).isSome then return false
   if let some meth := (<- newMeth node part).1 then if meth.ty.isRoutine then part := meth.ty
  else if part.isObj then part := (<- Match.plain (magicMeth? part "__call__")).getD part
  if part.isFn then return <- sigNeverReturns isAwaited part
  if !part.isOvld then return false
  let count := (<- part.ovls.filterM (sigNeverReturns isAwaited)).length
  if count == 0 || count == part.ovls.length then return count > 0
  let (called, _) <- validateOvls node (args.map .ofNode) {ty := part, draft := res.draft} none {}
  return called.retTy.any (·.isNever)
 let isNever <- pure !res.ty.subtys.isEmpty <&&> return (<- res.ty.subtys.mapM never).all id
 modify fun s => {s with noReturnCalls := s.noReturnCalls.insert node.id isNever, noReturnDepth := s.noReturnDepth - 1}
 pure isNever

def swallowsExceptions (isAsync : Bool) (node : Node) : Ask := do
 if let some known := (<- get).contextManagers[node.id]? then return known
 let remember val := modify fun s => {s with contextManagers := s.contextManagers.insert node.id val}
 remember false
 if (<- get).managerDepth > maxTyDepth then return false
 modify fun s => {s with managerDepth := s.managerDepth + 1}
 let ty := (<- tyOf node).ty
 let mut swallows := false
 if ty.isObj then
  if let some exit <- Match.plain (magicMeth? ty (if isAsync then "__aexit__" else "__exit__")) then
   if let some ret := exit.fn.declRet.filter fun _ => exit.isFn then
    let ret := if isAsync && isCoro ret then ret.tyArgs.getD 2 .unk else ret
    swallows := ret.isObjOf "bool" && !(ret.lit? matches some (.bool false))
 modify fun s => {s with managerDepth := s.managerDepth - 1}
 remember swallows
 pure swallows

/-! Reachability. -/

def tyOfPatNode? (stmt : Node) :=
 tyOfSubnode? stmt <| if stmt.kind matches .caseClause .. then evalCase stmt else evalMatch stmt

variable (kind : CondKind)
def CondKind.holds := kind matches .isTrue | .isTrueNever

def narrowedByCond? (expr ref : Node) : Eval (Option (Typed × Typed)) := do
 let some hit <- lookUpName ref ref.nameVal false | pure none
 if !(<- hasTypedDecls hit.sym) then return none
 let some narrow <- narrowing? ref expr (CondKind.holds kind) | pure none
 let before <- tyOf ref
 pure (before, <- narrow before.ty)

def flowOracle (top : FlowId) (src : Option FlowId) (base : Nat) : FlowOracle Eval where
 neverReturns
 swallowsExceptions exprs isAsync := exprs.anyM (swallowsExceptions isAsync)
 isNever
  | .pat _ stmt => return (<- tyOfPatNode? stmt).any (·.ty.isNever)
  | .cond kind expr (some ref) =>
   return (<- narrowedByCond? kind expr ref).any fun (before, after) => after.ty.isNever && !before.draft
  | _ => pure false
 known? id := return (<- get).reach[(base + id, src)]?
 remember hit := modify fun s => {s with reach := s.reach.insert (top, src) hit}

def flowReach (id : FlowId) (src : Option FlowId) (ignoresCalls : Bool) : Eval Reach := do
 let world <- get
 let block := Anc.blockOf id
 let some bound := (world.mods[block]?).join | pure .reachable
 if world.reachStack.contains id then return .reachable
 let base := Anc.firstId block
 modify fun s => {s with reachStack := id :: s.reachStack}
 let hit <- FlowSearch.search bound.flow (flowOracle id src base) (src.map (· - base)) ignoresCalls (id - base)
 modify fun s => {s with reachStack := s.reachStack.filter (· != id)}
 pure hit

/-! Types along the flow. -/

structure FlowEnv where
 bound : BoundMod
 (analyzer cache : Nat)
 key : String
 ref : Node?
 query : FlowQuery

variable (env : FlowEnv)
def FlowEnv.base := Anc.firstId env.bound.block
def flowCache : Eval FlowCache := return (<- get).flowCaches.getD env.cache {}

def changeFlowCache (change : FlowCache -> FlowCache) : Act :=
 modify fun s => {s with flowCaches := s.flowCaches.modify env.cache change}

def bumpEpoch : Act := modify fun s => {s with flowEpoch := s.flowEpoch + 1}

variable (id : FlowId) (preds : List FlowId) (ent : Option FlowRes) (next : FlowId -> Eval FlowRes)
def flowEnt? : Eval (Option FlowRes) :=
 return (<- flowCache env).ents[id]?.map fun
  | .done ty => {ty}
  | .incomplete ty subtys epoch => {ty, draft := true, epoch, subtys}

def setFlow (ty : Ty?) (draft : Bool) : Eval FlowRes := do
 if !draft then bumpEpoch
 else if let (some ty, some {ty := some before, draft := true, ..}) := (ty, <- flowEnt? env id) then
  if !before.isSame ty then bumpEpoch
 let epoch := (<- get).flowEpoch
 changeFlowCache env fun cache => {cache with
  ents := cache.ents.insert id (if draft then .incomplete ty #[] epoch else .done ty)}
 trackSlot (.flow env.cache id)
 pure {ty, draft, epoch, subtys := if draft then some #[] else none}

def setSubty (idx : Nat) (subty : DraftSubty) : Act := do
 let some (.incomplete _ subtys _) := (<- flowCache env).ents[id]? | return
 let (subtys, isNew) := if let some old := subtys[idx]? then
   let isNew := old.draft != subty.draft || !old.ty.isSame subty.ty
   (if isNew || old.isPending != subty.isPending then subtys.setIfInBounds idx subty else subtys, isNew)
  else (subtys.push subty, true)
 if isNew then bumpEpoch
 let epoch := (<- get).flowEpoch
 let ty := Ty.combine (subtys.toList.map (·.ty))
 changeFlowCache env fun cache => {cache with ents := cache.ents.insert id (.incomplete ty subtys epoch)}

def cleanEnt (ent : FlowRes) : Ty? :=
 ent.ty.map fun ty =>
  match (ent.subtys.getD #[]).toList with
  | [] => ty.cleanDraft
  | subtys => .combine ((subtys.filter (!·.ty.isDraftUnk)).map (·.ty.cleanDraft))

def pending {α : Type} (env : FlowEnv) (id : FlowId) (action : Eval α) : Eval α := do
 changeFlowCache env fun cache => {cache with pending := id :: cache.pending}
 let res <- action
 changeFlowCache env fun cache => {cache with pending := cache.pending.filter (· != id)}
 pure res

def FlowQuery.start (query : FlowQuery) : FlowRes :=
 {ty := query.tyAtStart.map (·.ty), draft := query.tyAtStart.any (·.draft)}

def branchTy : Eval FlowRes := do
 let mut tys := []
 let mut draft := false
 for antecedent in preds do
  let res <- next antecedent
  if let some ty := res.ty then
   if env.ref.isNone && !ty.isNever then return <- setFlow env id (some .unk) false
   tys := tys ++ [ty]
  if res.draft then draft := true
 setFlow env id (if tys.isEmpty then none else some (.combine tys)) draft

def maxLoopEvals := 256

def loopAttempts : Nat -> Eval FlowRes
 | 0 => pure {}
 | remaining + 1 => do
  let subtysNow := return ((<- flowEnt? env id).bind (·.subtys)).getD #[]
  let isAboutFlow := env.ref.isNone
  let mut sawDraft := false
  let mut sawPending := false
  let mut isProven := isAboutFlow && !(<- subtysNow).isEmpty
  let mut firstDraft := false
  let mut firstPending := false
  for (antecedent, idx) in preds.zipIdx do
   if isProven || firstPending && idx > 0 then continue
   let known := (<- subtysNow)[idx]?
   if known.any (·.isPending) then
    if idx == 0 then firstPending := true
    else
     sawDraft := true
     sawPending := true
     continue
   if known.all fun known => !known.isPending && known.draft then
    let evaluations := known.elim 0 (·.evaluations)
    if evaluations >= maxLoopEvals then continue
    setSubty env id idx {ty := known.elim .draftUnk (·.ty), draft := true, isPending := true, evaluations}
    let res <- next antecedent
    if res.draft then
     sawDraft := true
     if idx == 0 then firstDraft := true
    setSubty env id idx {res with
     ty := res.ty.getD (if res.draft then .draftUnk else .never)
     isPending := firstPending, evaluations := evaluations + 1}
   if isAboutFlow && ((<- flowEnt? env id).bind (·.ty)).isSome then isProven := true
  if isProven then return <- if sawPending then pure {ty := some .unk} else setFlow env id (some .unk) false
  let mut ty := (<- flowEnt? env id).bind (·.ty)
  if sawDraft then ty := ty.map (·.cleanDraft)
  if sawDraft && remaining > 0 then return <- loopAttempts remaining
  if sawDraft then
   let world <- get
   let isPendingElsewhere := (world.analyzers.getD env.analyzer {}).toList.any fun (key, cache) =>
    key != env.key && !(world.flowCaches.getD cache {}).pending.isEmpty
   let draft := sawPending || isPendingElsewhere || ty.all (·.isDraftUnk) || firstDraft
   if !draft then bumpEpoch
   return {ty, draft}
  if firstPending then return {ty, draft := true}
  setFlow env id ty false

def loopTy : Eval FlowRes := do
 match ent with
 | none => discard (setFlow env id (if env.ref.isSome then none else some .unk) true)
 | some ent =>
  let subtys := ent.subtys.getD #[]
  if subtys.size == preds.length && subtys.any (·.isPending) then return {ty := cleanEnt ent, draft := true}
 loopAttempts env id preds next (preds.length + 1)

variable (tgt : Node)
def assignedKey? (items : Nodes) (comma : Bool) : Eval String? := do
 if !((<- parentKind? tgt) matches some (.assignment ..)) then return none
 return ((Node.plainSubscript? items comma).bind Node.singleStr?).map (·.toString)

def assignTy? (unbinds : Bool) (sym : SymId?) (before : Eval FlowRes) : Eval (Option FlowRes) := do
 let some ref := env.ref | pure none
 if env.query.sym == sym && ref.matchesRef tgt then
  if unbinds then return <- setFlow env id (if ref.isName then some .unbound else none) false
  let parent <- parent? tgt
  let evaluated := (parent.filter fun parent => parent.isFn || parent.isCls).getD tgt
  let res <- pending env id (tyOfSubnode? evaluated (Evals.evalStmt tgt))
  if let some res := res then if (<- univ).isHole res.ty then return some {ty := res.ty, draft := true}
  let res := if (ref.kind matches .memAccess ..) && (<- get).uneven.contains tgt.id then none else res
  return <- setFlow env id (res.map (·.ty)) (res.any (·.draft))
 if let .idx base items comma := tgt.kind then
  if ref.matchesRef base then
   if let some key <- assignedKey? tgt items comma then
    let res <- pending env id before
    let u <- univ
    let ty := res.ty.map (·.map fun mem => if mem.isCls && (u.flags mem).tdict then narrowForKey u mem key else mem)
    return <- setFlow env id ty res.draft
 return if ref.partlyMatchesRef tgt then FlowQuery.start env.query else none

def condTy? (kind : CondKind) (expr : Node) (about : Node?) (before : Eval FlowRes) : Eval (Option FlowRes) := do
 if env.query.skipConds then return none
 if kind matches .isTrue | .isFalse then
  let some ref := env.ref | pure none
  pending env id do
   let some narrow <- narrowing? ref expr (CondKind.holds kind) | pure none
   let res <- before
   let some ty := res.ty | pure (<- setFlow env id none res.draft)
   let narrowed <- narrow ty
   setFlow env id narrowed.ty (res.draft || narrowed.draft)
 else
  let some about := about | pure none
  if env.ref.map (·.refKey) == about.refKey then return none
  pending env id do
   let some (before, after) <- narrowedByCond? kind expr about | pure none
   if !after.ty.isNever then return none
   setFlow env id none (before.draft || after.draft)

def patTy? (subj stmt : Node) (isEnd : Bool) : Eval (Option FlowRes) := do
 let give ty draft := some <$> setFlow env id ty draft
 if isEnd then
  let some res <- tyOfPatNode? stmt | pure none
  if res.ty.isNever then return <- give res.ty res.draft
  let some ref := env.ref | pure none
  let some narrow <- subjNarrowing? ref subj | pure none
  let some narrowed <- narrow res.ty | pure none
  give narrowed.ty (res.draft || narrowed.draft)
 else if env.ref.all (·.matchesRef subj) then
  let some res <- tyOfPatNode? stmt | pure none
  if env.ref.isSome then return <- give res.ty res.draft
  if res.ty.isNever then give none res.draft else pure none
 else
  let some ref := env.ref | pure none
  if !(stmt.kind matches .caseClause ..) then return none
  let some narrow <- subjNarrowing? ref subj | pure none
  let some res <- tyOfPatNode? stmt | pure none
  let some narrowed <- narrow res.ty | pure none
  give narrowed.ty (res.draft || narrowed.draft)

def wildTy (node : Node) (name : String) := do
 let some hit <- lookUpName node name false | pure .unk
 for id in (<- symAt hit.sym).decls do
  if (<- declAt id).node == node then return (<- Evals.inferDecl hit.sym id).getD .unk
 pure .unk

def tyAtFlow (env : FlowEnv) : Nat -> FlowId -> Eval FlowRes
 | 0, _ => pure {}
 | fuel + 1, id => do
  let ent <- flowEnt? env id
  if let some ent := ent then
   if !ent.draft then return ent
   if ent.epoch == (<- get).flowEpoch then return {ty := cleanEnt ent, draft := true}
  if (<- flowCache env).pending.contains id then return {ty := ((ent.bind (·.ty)).getD .draftUnk), draft := true}
  let node := env.bound.flow.getD id default
  let first := node.preds.getD 0 FlowNode.deadId
  let next := tyAtFlow env fuel
  let touches := env.ref.all node.touches
  let orGoOn hit := if let some hit := hit then pure hit else next first
  match node.kind with
  | .dead | .excluded => setFlow env id (some .never) false
  | .start => setFlow env id (FlowQuery.start env.query).ty (FlowQuery.start env.query).draft
  | .varHint => next first
  | .call call => if <- neverReturns call then setFlow env id none false else next first
  | .assignment tgt unbinds sym => orGoOn (<- assignTy? env id tgt unbinds sym (next first))
  | .contextManager exprs isAsync blocks =>
   if (<- exprs.anyM (swallowsExceptions isAsync)) == blocks then setFlow env id none false
   else branchTy env id node.preds.toList next
  | .branch before =>
   if let some before := before then
    if !touches && node.affected.isSome then
     if (<- flowReach (env.base + id) (env.base + before) false) == .reachable then return <- next before
   branchTy env id node.preds.toList next
  | .loop => if touches then loopTy env id node.preds.toList ent next else next first
  | .cond kind expr about => orGoOn (<- condTy? env id kind expr about (next first))
  | .fullMatch stmt subj => orGoOn (<- patTy? env id subj stmt true)
  | .pat subj stmt => orGoOn (<- patTy? env id subj stmt false)
  | .finallyGate =>
   if (<- flowCache env).closedGates.contains id then return {}
   let res <- next first
   changeFlowCache env fun cache => {cache with ents := cache.ents.erase id}
   pure {ty := res.ty, draft := res.draft}
  | .afterFinally suite gate =>
   let wasClosed := (<- flowCache env).closedGates.contains gate
   changeFlowCache env fun cache => {cache with closedGates := gate :: cache.closedGates}
   let res <- trying suite (next first)
   let res <- if res.draft then pure res else setFlow env id res.ty false
   if !wasClosed then changeFlowCache env fun cache => {cache with closedGates := cache.closedGates.filter (· != gate)}
   pure res
  | .wildImport stmt names =>
   if let some name := env.ref.bind (·.nameVal?) then
    if !names.contains name then return <- next first
    pending env id do setFlow env id (<- wildTy stmt name) false
   else next first

def analyze (bound : BoundMod) (analyzer : Nat) (ref : Node?) (query : FlowQuery) (id : FlowId) : Eval FlowRes := do
 let key := if let some ref := ref then
   ref.refKey ++ "." ++ (match query.sym with | some sym => toString sym | none => "?")
  else "."
 let world <- get
 let cache := ((world.analyzers.getD analyzer {})[key]?).getD world.flowCaches.size
 if cache == world.flowCaches.size then
  modify fun s => {s with
   flowCaches := s.flowCaches.push {}, analyzers := s.analyzers.modify analyzer (·.insert key cache)}
 tyAtFlow {bound, analyzer, cache, key, ref, query} (8 * bound.flow.size + 1024) id

def analyzerFor (scope : Node) (start : Typed?) : Eval Nat := do
 let known := (<- get).analyzersOfNode.getD scope.id []
 let isSame : Typed? -> Typed? -> Bool
  | some lhs, some rhs => lhs.draft == rhs.draft && lhs.ty.isSame rhs.ty
  | lhs, rhs => lhs.isNone && rhs.isNone
 if let some (_, hit) := known.find? (isSame start ·.1) then return hit
 let made := (<- get).analyzers.size
 modify fun s => {s with
  analyzers := s.analyzers.push {}, analyzersOfNode := s.analyzersOfNode.insert scope.id (known ++ [(start, made)])}
 pure made

def flowTy (ref : Node) (query : FlowQuery) : Eval FlowRes := do
 let place <- if let some start := query.startNode then pure ((<- parent? start).getD start) else pure ref
 let some scope <- execScope? place | pure {}
 let some bound <- bound? ref | pure {}
 let some keys := bound.nodeReferences[scope.id]? | pure {}
 if !keys.contains ref.refKey && !keys.contains wildKey then return {}
 if <- isTooComplex ref then
  return {ty := if query.tyAtStart.any (·.ty.isUnbound) then some .unk else none, draft := true}
 let world <- get
 let analyzer <- match world.retContexts with
  | ctx :: _ => if isInRetCtx world scope then pure ctx.analyzer else analyzerFor scope query.tyAtStart
  | [] => analyzerFor scope query.tyAtStart
 let some flow <- flowAt? (query.startNode.getD ref) | pure {}
 analyze bound analyzer ref query (flow - Anc.firstId bound.block)

def afterReach (node : Node) : Eval Reach := do
 let some flow <- flowIn (·.nodeAfterFlow) node | pure .structural
 if <- isTooComplex node then return .reachable
 let hit <- flowReach flow none false
 if hit != .reachable then return hit
 let some scope <- execScope? node | pure .reachable
 let some bound <- bound? node | pure .reachable
 let analyzer <- analyzerFor scope none
 if <- isTooComplex scope then return .reachable
 let res <- analyze bound analyzer none {tyAtStart := Ty.unbound} (flow - Anc.firstId bound.block)
 return if res.ty.any (!·.isNever) then .reachable else .byAnalysis

end TypeChecker.Infer
