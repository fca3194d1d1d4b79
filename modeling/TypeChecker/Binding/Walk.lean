import TypeChecker.Binding.Alias

/-! Binding a tree: one visit of every node, in the order in which control passes them. -/

namespace TypeChecker.Binding
variable (walk : Node -> Binds)
def reportName (tgt : Node) (name : String) := reportError name tgt.span [tgt.nameVal]
def walkAll (nodes : Nodes) := nodes.forM walk
def walkMay (node : Node?) := node.forM walk

/-! Code that is never reached still needs scopes. -/

def addDummyScopesIn : Nat -> ScopeId -> Node -> Binds
 | 0, _, _ => pure ()
 | fuel + 1, parent, node => do
  let inNewScope kind suite := do
   let scope <- addScope {kind, parent}
   addDummyScopesIn fuel scope suite
   if !(<- get).nodeScope.contains node.id then setScope node scope
  match node.kind with
  | .clsDef parts => inNewScope .clsDef parts.suite
  | .fnDef parts => inNewScope .fn parts.suite
  | _ => node.kids.forM (addDummyScopesIn fuel parent)

variable (node : Node)
def containsYield := node.any (·.kind matches .yieldExpr _ | .yieldFrom _)

def visitStmts (stmts : Nodes) : Binds := do
 let mut hitDead := false
 for stmt in stmts do
  markFlow stmt
  if !hitDead then hitDead <- isDead
  if !hitDead then walk stmt
  else
   if let some fn := (<- get).fn then if containsYield stmt then modifyFn fn ({· with isGen := true})
   if !(<- read).symsOnly then addDummyScopesIn Node.maxHeight (<- get).scope stmt

/-! Definitions. -/

def tyParScope? (tyPars : Node?) : Bind ScopeId? := do
 let some tyPars := tyPars | pure none
 walk tyPars
 pure (<- get).nodeScope[tyPars.id]?

def visitCls (parts : ClsParts Node) : Binds := do
 walkAll walk parts.decos
 let decl <- addDecl (<- makeDecl .clsDef node (<- rangeOf parts.name))
 (<- bindHere parts.name).forM (attach · decl)
 setDecl node decl
 let tyParScope <- tyParScope? walk parts.tyPars
 walkAll walk parts.args
 withNewScope .clsDef (tyParScope.getD (<- parentForScope)) fun scope => do
  setScope node scope
  addIntrinsic "__doc__" node "str | None"
  addIntrinsic "__module__" node "str"
  addIntrinsic "__qualname__" node "str"
  modify ({· with slots := none})
  if !(<- read).symsOnly then walk parts.suite
  (<- get).slots.forM declareSlots
  modify ({· with slots := none})
 assignTgt walk parts.name false

def addTask (task : Task) : Binds := do
 if !(<- read).symsOnly then modify fun s => {s with tasks := s.tasks.push task}

def visitFn (parts : FnParts Node) : Binds := do
 addVarHint
 markFlow node
 let sym <- bindHere parts.name
 let anc <- anc
 let isMeth := (anc.enclCls? node true).isSome
 let decl <- addDecl (<- makeDecl (.fn {isMeth}) node (<- rangeOf parts.name))
 sym.forM (attach · decl)
 setDecl node decl
 let parameters := parts.pars.filterMap Node.parParts?
 parameters.forM (walkMay walk ·.dfltVal)
 let tyParScope <- tyParScope? walk parts.tyPars
 walkAll walk parts.decos
 for par in parameters do
  walkMay walk par.hint
  walkMay walk par.hintCmt
 walkMay walk parts.retHint
 walkMay walk parts.hintCmt
 withNewScope .fn (tyParScope.getD (<- parentForScope)) fun scope => do
  setScope node scope
  if (anc.enclCls? node).isSome then addIntrinsic "__class__" node "type[self]"
  addTask (.fn node scope decl)
 assignTgt walk parts.name false

variable (pars : Nodes) (fn : Option (FnParts Node))
def visitLambda : Binds := do
 addVarHint
 markFlow node
 for par in pars.filterMap Node.parParts? do walkMay walk par.dfltVal
 withNewScope .fn (<- parentForScope) fun scope => do
  setScope node scope
  addTask (.lambda node scope)

def parHasTy (node : Node) (parts : ParParts Node) :=
 parts.hint.isSome || parts.hintCmt.isSome ||
  fn.any fun fn => fn.hintCmt.any fun cmt =>
   if let .fnTyCmt isEllipsis tys _ := cmt.kind then
    !isEllipsis && !(fn.pars.length > tys.length && fn.pars.head? == node)
   else false

def declarePar (node : Node) (parts : ParParts Node) (name : Node) := do
 if let some sym <- bindHere name then
  setDecl name (<- declareAt sym (.par (parHasTy fn node parts)) node node)
 else pure ()

def startFlow : Binds := draw .start [] (setCur ·)

def setRefs := do
 let refs := (<- get).refs
 modify fun s => {s with nodeReferences := s.nodeReferences.insert node.id refs}

def setCost := modify fun s => {s with nodeCost := s.nodeCost.insert node.id s.cost}

def bindFnBody (decl : DeclId) : Binds := do
 let some parts := node.fnParts? | pure ()
 startFlow
 modify ({· with cost := 0})
 for par in parts.pars do
  let some parParts := par.parParts? | pure ()
  parParts.name.forM fun name => do
  declarePar parts par parParts name
  assign name
 modify ({· with fn := decl})
 newBranch fun atRet => do
  aiming .returns [atRet] (walk parts.suite)
  modify ({· with fn := none})
  setAfterFlow parts.suite (<- cur)
  leadTo atRet
  enter atRet
  setAfterFlow node (<- cur)
 setRefs node
 setCost node

def bindLambdaBody : Binds := do
 let .lambda pars expr := node.kind | pure ()
 startFlow
 for par in pars do
  let some parParts := par.parParts? | pure ()
  parParts.name.forM fun name => do
  declarePar none par parParts name
  assign name
  walk name
  markFlow par
 walk expr
 setRefs node

def visitTyParList : Binds := do
 let outer := (<- get).scope
 let scope <- addScope {kind := .tyPar, parent := (<- parentForScope), proxy := outer}
 let parts := pars.filterMap fun par =>
  if let .tyPar name _ bound dfltExpr := par.kind then some (par, name, bound, dfltExpr) else none
 parts.forM fun (_, _, bound, _) => walkMay walk bound
 let mut seen := []
 for (par, name, _, _) in parts do
  let val := name.nameVal
  let sym <- addSym scope val {}
  setDecl name (<- declareAt sym .tyPar par node)
  if seen.contains val then reportName name "tyParKnownTyPar"
  else seen := val :: seen
 parts.forM fun (_, _, _, dfltExpr) => walkMay walk dfltExpr
 setScope node scope

def visitTyAlias (name : Node) (tyPars : Node?) (expr : Node) : Binds := do
 discard (bindHere name)
 walk name
 let tyParScope <- tyParScope? walk tyPars
 let decl <- addDecl (<- makeDecl (.tyAlias (<- docOf expr)) node (<- rangeOf name))
 (<- bindHere name).forM (attach · decl)
 setDecl node decl
 assignTgt walk name true
 let outer := (<- get).scope
 modify ({· with scope := tyParScope.getD outer})
 walk expr
 modify ({· with scope := outer})

/-! The list of exports and the slots of a class. -/

def plainStr? : Option (String × Node) :=
 if let .strList [string] _ _ := node.kind then
  if let .string _ val := string.kind then (Text.toString val, string) else none
 else none

def addListed (ents : ByName Node) :=
 modify fun s => {s with
  listed := s.listed.map (· ++ (ents.map (·.1)).toArray)
  listedNodes := s.listedNodes ++ (ents.map (·.2)).toArray}

def addListedNames (names : Array String) := modify fun s => {s with listed := s.listed.map (· ++ names)}

def reportUnsure : Binds := do
 modify ({· with listIsUncertain := true})
 report .unsupportedDunderAll "dunderAllOp" node

def listOfMod? :=
 if let .memAccess lhs mem := node.kind then if mem.nameVal == "__all__" then lhs.nameVal? else none else none

def changeListed (meth : String) (args : Nodes) : Binds := do
 let isUnderstood <- match meth, args.map .argVal with
  | "extend", [val] => do
   if let .list items := val.kind then
    let plain := (items.map plainStr?).takeWhile Option.isSome
    addListed (plain.filterMap id)
    pure (plain.length == items.length)
   else if let some name := listOfMod? val then
     addListedNames ((<- listedBy? name).getD #[])
     pure true
    else pure false
  | "remove", [val] => do
   match plainStr? val, (<- get).listed with
   | some (name, _), some listed =>
    modify fun s => {s with
     listed := (listed.filter (· != name))
     listedNodes := s.listedNodes.filter (Text.toString ·.strVal != name)}
    pure true
   | _, _ => pure false
  | "append", [val] => do
   let some ent := plainStr? val | pure false
   addListed [ent]
   pure true
  | _, _ => pure false
 if !isUnderstood then reportUnsure node

variable (tgt : Node) (name : String) (expr : Node?) (tgts : Nodes)
def isTgtNamed := if let .annot val _ := tgt.kind then val.nameVal? == name else tgt.nameVal? == name

def sequenceItems? : Option Nodes :=
 match node.kind with
 | .list items | .tup items _ => items
 | _ => none

variable (val : Node)
def setListed : Binds := do
 modify ({· with listed := some #[]})
 let ents := ((sequenceItems? val).getD []).map plainStr?
 addListed (ents.filterMap id)
 if (sequenceItems? val).isNone || ents.any Option.isNone then reportUnsure node

def setSlots : Binds := do
 let slots := if let .strList .. := val.kind then [val]
  else (sequenceItems? val).filter (·.all fun item => (plainStr? item).isSome)
 modify ({· with slots})

def extendListed : Binds := do
 if let .list items := val.kind then addListed (items.filterMap plainStr?)
 else if let some name := listOfMod? val then
   if let some names <- listedBy? name then addListedNames names else reportUnsure node
  else reportUnsure node

/-! Assignments. -/

def specTys :=
 words "Tuple Generic Protocol Callable Type ClassVar Final Literal TypedDict Union Optional Annotated TypeAlias
Concatenate TypeGuard Unpack Self NoReturn Never LiteralString OrderedDict TypeIs"

def declareSpec (tgt : Node) : Bind Bool := do
 if !(<- file).isTypingStub then return false
 let .annot val _ := tgt.kind | pure false
 let some name := val.nameVal? | pure false
 if !specTys.contains name then return false
 let decl <- addDecl (<- makeDecl .specialCls tgt (<- rangeOf tgt))
 (<- bindHere val).forM (attach · decl)
 setDecl node decl
 pure true

def strSubscriptBase? : Node? :=
 if let .idx lhs [item] false := tgt.kind then if (item.argVal.kind matches .strList ..) && lhs.isRef then lhs else none
 else none

def visitAssign (lhs rhs : Node) (cmt chained : Node?) : Binds := do
 if <- declareSpec node lhs then return
 bindTgt lhs
 cmt.forM fun cmt => do
  walk cmt
  declareTyped lhs cmt
 chained.forM (report .invalidTyForm "annotBarred" ·.span)
 (strSubscriptBase? lhs).forM (addRef ·.refKey)
 walk rhs
 let anc <- anc
 let mayBeAlias := (anc.enclFn? node).isNone &&
  !((rhs.kind matches .call ..) && (<- file).isTypingStub) && !anc.isInLoop node
 declareInferred lhs rhs mayBeAlias
 assignTgt walk lhs true
 let kind := (<- curScope).kind
 if kind == .mod && isTgtNamed lhs "__all__" then setListed node rhs
 if kind == .clsDef && isTgtNamed lhs "__slots__" then setSlots rhs

def isShadowed (world : ScopeWorld) (box : ScopeId) (name : String) : Nat -> ScopeId -> Bool
 | 0, _ => false
 | fuel + 1, id =>
  if id == box then false
  else
   let scope := world.scope id
   (scope.sym? name).isSome || scope.parent.any (isShadowed world box name fuel)

def visitAssignExpr (name rhs : Node) : Binds := do
 unsteered (walk rhs)
 match (<- anc).assignScope? (<- hasScope) node with
 | none =>
  reportError "putExprCtx" node
  walk name
 | some box =>
  let state <- get
  let boxScope := state.nodeScope.getD box.id 0
  let val := name.nameVal
  if isShadowed state.world boxScope val ScopeWorld.maxDepth state.scope then
   reportName name "putExprCompr"
  discard (bindName boxScope val)
  declareInferred name rhs
  assignTgt walk name true

variable (lhs : Node) (op : Op)
def visitAugAssign (rhs dest : Node) : Binds := do
 walk lhs
 walk rhs
 bindTgt dest
 assignTgt walk dest false
 declareInferred dest rhs
 if op == .addEqual && (<- curScope).kind == .mod && lhs.nameVal? == some "__all__" then extendListed node rhs

def visitDel :=
 tgts.forM fun tgt => do
  bindTgt tgt
  walk tgt
  assignTgt walk tgt false true

def visitAnnotated (val hint : Node) : Binds := do
 if <- declareSpec node node then return
 let anc <- anc
 let bindsFirst := ((anc.parent? node).any (·.kind matches .assignment ..)) && (anc.enclCls? node true).isSome
 if !bindsFirst then walk hint
 addVarHint
 bindTgt val
 declareTyped val hint
 if bindsFirst then walk hint
 let (isNarrowing, mentioned) := narrowed {} val
 if isNarrowing then addRefs mentioned
 walk val

/-! Statements that steer control. -/

def checkAsync (asyncToken : Token?) : Binds := do
 let some token := asyncToken | pure ()
 let isAsync := ((<- anc).enclFn? node).any (·.fnParts?.any (·.isAsync))
 if !(<- file).isNotebook && !isAsync then reportError "asyncNotInAsyncFn" token

def steered (onTrue onFalse : FlowId) [Holds own [onTrue]] [Holds own [onFalse]] (body : Binds) : BindWith own Unit :=
 aiming .whenTrue [onTrue] (aiming .whenFalse [onFalse] (lend body))

def loopBody (start after : FlowId) [Holds own [start]] [Holds own [after]] (body : BindWith own Unit) :
  BindWith own (Std.HashSet String) := (·.1) <$> aiming .continues [start] (aiming .breaks [after] (tracking body))

def visitFor (parts : ForParts Node) : Binds := do
 bindTgt parts.tgt
 declareInferred parts.tgt node
 walk parts.iterable
 looping fun start => newBranch fun beforeElse => newBranch fun after => do
  leadTo start
  setCur start
  leadTo beforeElse
  let (tgts, _) <- tracking (assignTgt walk parts.tgt true)
  let affected <- loopBody start after do
   walk parts.suite
   leadTo start
   for key in tgts.toList do addRef key
  enter beforeElse
  walkMay walk parts.orElse
  leadTo after
  enter after
  pure affected
 checkAsync node parts.asyncToken

def leaveBy (jump : Jump) : Binds := do
 leadBy jump
 setCur FlowNode.deadId

def visitReturn : Binds := do
 (<- get).fn.forM fun fn => modifyFn fn fun facts => {facts with returns := facts.returns.push node}
 expr.forM fun expr => do
  markFlow expr
  walk expr
 markFlow node
 leadBy .returns
 leaveBy .leaves

def visitRaise (fromExpr : Node?) : Binds := do
 leadBy .raises
 (<- get).fn.forM fun fn => modifyFn fn fun facts => {facts with raises := facts.raises.push node}
 walkMay walk expr
 walkMay walk fromExpr
 leaveBy .leaves

def isInCompr : Nodes -> Node? -> Node? -> Bool
 | [], _, _ => false
 | node :: rest, below, twoBelow =>
  if let .compr _ forIfs _ _ := node.kind then
   match forIfs with
   | first :: _ => if let .comprFor _ _ iterable := first.kind then !(below == first && twoBelow == iterable) else true
   | [] => true
  else isInCompr rest node below

def visitYield (isFrom : Bool) : Binds := do
 let anc <- anc
 if isInCompr (anc.ancestors node) none none then reportError "yieldWithinCompr" node
 match anc.enclFn? node with
 | none => if (anc.enclLambda? node).isNone then reportError "yieldOutFn" node
 | some fn => if isFrom && fn.fnParts?.any (·.isAsync) then reportError "yieldFromOutAsync" node
 (<- get).fn.forM fun fn => modifyFn fn fun facts => {facts with yields := facts.yields.push node, isGen := true}
 walkMay walk expr
 markFlow node

def enterUnless (isExcluded : Bool) (label : FlowId) [Holds own [label]] : BindWith own Unit :=
 if isExcluded then setCur FlowNode.excludedId else enter label

def visitBranches (truth : Bool?) (test body : Node) (orElse : Node?) :=
 rejoin fun after => newBranch fun thenLabel => newBranch fun elseLabel => do
  steered thenLabel elseLabel (branchOn walk test)
  enterUnless (truth == false) thenLabel
  walk body
  leadTo after
  enterUnless (truth == true) elseLabel
  if let some orElse := orElse then walk orElse else lend (branchNever test after)
  leadTo after
  enter after

def visitWhile (test suite : Node) (orElse : Node?) : Binds :=
 newBranch fun thenLabel => newBranch fun elseLabel => newBranch fun after => looping fun start => do
  let truth <- staticTruth? test
  leadTo start
  setCur start
  steered thenLabel elseLabel (branchOn walk test)
  enterUnless (truth == false) thenLabel
  let affected <- loopBody start after (walk suite)
  leadTo start
  enterUnless (truth == true) elseLabel
  walkMay walk orElse
  leadTo after
  enter after
  pure affected

def visitAssert (test : Node) (exc : Node?) : Binds :=
 newBranch fun onTrue => newBranch fun onFalse => do
  steered onTrue onFalse (branchOn walk test)
  exc.forM fun exc => do
   enter onFalse
   walk exc
  enter onTrue

def visitExcept (parts : ExceptParts Node) : Binds := do
 walkMay walk parts.tyExpr
 parts.name.forM fun name => do
  walk name
  let sym <- bindHere name
  assignTgt walk name true
  sym.forM (declareBound · name node)
 let saved := (<- get).inExcept
 modify ({· with inExcept := true})
 walk parts.suite
 modify ({· with inExcept := saved})
 parts.name.forM (assign · true)

def visitTry (parts : TryParts Node) : Binds := do
 let before <- cur
 let hasFinally := parts.finalSuite.isSome
 let hasBareClause := parts.clauses.any fun clause => if let .exceptClause parts := clause.kind then parts.tyExpr.isNone
  else false
 let (gate, isAfterLive) <- rejoin fun beforeFinally => newBranches parts.clauses.length fun clauseLabels =>
  draw (.branch before) [] fun onLeaving =>
  draw .finallyGate [onLeaving] fun gate => do
   let exceptLabels := clauseLabels ++ if hasBareClause then [] else [onLeaving]
   if hasFinally then leadTo beforeFinally [gate]
   aiming .raises exceptLabels (leadBy .raises)
   let isReachable <- aiming .leaves (if hasFinally then [onLeaving] else []) do
    aiming .raises exceptLabels (walk parts.suite)
    walkMay walk parts.orElse
    leadTo beforeFinally
    let mut isReachable := !(<- isDead)
    for (clause, label) in parts.clauses.zip clauseLabels.attach do
     enter label.1
     walk clause
     leadTo beforeFinally
     if !(<- isDead) then isReachable := true
    pure isReachable
   enter beforeFinally
   pure (gate, isReachable)
 parts.finalSuite.forM fun suite => do
  walk suite
  pass (.afterFinally suite gate)
  if !isAfterLive then setCur FlowNode.deadId

def visitWith (parts : WithParts Node) : Binds := do
 for item in parts.items do
  let .withItem expr tgt := item.kind | pure ()
  walk expr
  tgt.forM fun tgt => do
   bindTgt tgt
   declareInferred tgt item
   assignTgt walk tgt true
 let managers := parts.items.filterMap fun item => if let .withItem expr _ := item.kind then expr else none
 let isAsync := parts.asyncToken.isSome
 rejoin fun after =>
  draw (.contextManager managers isAsync false) [] fun swallowing =>
  draw (.contextManager managers isAsync true) [] fun forwarding => do
   leadTo swallowing
   leadBy .raises [forwarding]
   leadTo after [swallowing]
   aiming .raises ([swallowing] ++ [forwarding]) (walk parts.suite)
   leadTo after
   setCur after
   leadBy .raises
   checkAsync node parts.asyncToken

/-! Matching. -/

def capture : Binds := do
 let sym <- bindHere tgt
 assignTgt walk tgt false
 if let some subj := (<- get).matchSubj then
  if tgt.matchesRef subj || tgt.partlyMatchesRef subj then modify ({· with matchSubj := none})
 let parent := (<- anc).parent? tgt
 sym.forM (declareBound · tgt parent)

variable (subj : Node)
def visitCase (after : FlowId) (clause pat : Node) (isIrrefutable : Bool)
  (guard : Node?) (suite : Node) : BindWith [after] Unit :=
 newBranch fun afterCase => newBranch fun beforeGuard => newBranch fun beforeSuite => do
  leadTo beforeGuard
  if !isIrrefutable then leadTo afterCase
  enter beforeGuard
  modify ({· with matchSubj := subj})
  walk pat
  if (<- get).matchSubj.isSome then
   pass (.pat subj clause)
   modify ({· with matchSubj := none})
  if let some guard := guard then steered beforeSuite afterCase (branchOn walk guard) else leadTo beforeSuite
  enter beforeSuite
  walk suite
  leadTo after
  enter afterCase

def visitMatch (cases : Nodes) : Binds := do
 walk subj
 let parts := if let .tup items _ := subj.kind then items else []
 let results := (subj :: parts).map (narrowed {})
 let isNarrowable := results.any (·.1)
 if isNarrowable then addRefs (results.flatMap (·.2))
 newBranch fun after => do
  let mut isExhaustive := false
  for clause in cases do
   let .caseClause pat isIrrefutable guard suite := clause.kind | pure ()
   if isIrrefutable && guard.isNone then isExhaustive := true
   visitCase walk subj after clause pat isIrrefutable guard suite
  if isNarrowable then pass (.pat subj node)
  if !isExhaustive then passFullMatch node subj
  leadTo after
  enter after

def visitPatAs (orPats : Nodes) (tgt : Node?) : Binds := do
 newBranch fun afterOr => do
  for pat in orPats do
   walk pat
   leadTo afterOr
  enter afterOr
 tgt.forM fun tgt => do
  walk tgt
  let sym <- bindHere tgt
  assignTgt walk tgt false
  sym.forM (declareBound · tgt node)

/-! Expressions. -/

def visitCall (args : Nodes) : Binds := do
 unsteered do
  walk lhs
  for arg in Node.runtimeArgs args do
   markFlow arg
   walk arg
 let inDeco := ((<- anc).ancestors node).any (·.kind matches .deco _)
 if !inDeco && !(<- get).inAnnotated then passCall node
 if (<- curScope).kind == .mod then
  let .memAccess base mem := lhs.kind | pure ()
  if base.nameVal? == some "__all__" then changeListed node mem.nameVal args

def visitIdx (items : Nodes) : Binds := do
 markFlow node
 walk lhs
 let state <- get
 if isTypingHint state lhs "Annotated" then modify ({· with inAnnotated := true})
 walkAll walk items
 modify ({· with inAnnotated := state.inAnnotated})

def isSteered := return !((<- read).jumps .whenTrue).isEmpty

def visitBinaryOp (rhs : Node) : Binds := do
 if op matches .and | .or then
  let parts := newBranch fun beforeRhs => do
   aiming (if op == .and then .whenTrue else .whenFalse) [beforeRhs] (branchOn walk lhs)
   enter beforeRhs
   branchOn walk rhs
  if <- isSteered then parts
  else newBranch fun after => do
   steered after after parts
   enter after
 else unsteered do
  walk lhs
  walk rhs

def visitUnaryOp (expr : Node) : Binds := do
 if op == .not && (<- isSteered) then negated (branchOn walk expr) else unsteered (walk expr)

def isDisplayed (parent : Node?) := parent.any (·.kind matches .list _ | .set _ | .dict ..)

def visitCompr (expr : Node) (forIfs : Nodes) : Binds := do
 let anc <- anc
 let isAsync := (anc.enclFn? node).any (·.fnParts?.any (·.isAsync))
 if let some (.comprFor _ _ iterable) := forIfs.head?.map Node.kind then walk iterable
 withNewScope .compr (<- parentForScope) fun scope => do
  setScope node scope
  for part in forIfs do
   let .comprFor asyncToken tgt _ := part.kind | pure ()
   bindTgt tgt
   declareInferred tgt part
   asyncToken.forM fun token => do
    if !(<- file).isNotebook && !isAsync && isDisplayed (anc.parent? node) then
     reportError "asyncNotInAsyncFn" token
  newBranch fun onFalse => do
   for (part, idx) in forIfs.zipIdx do
    match part.kind with
    | .comprFor _ tgt iterable =>
     if idx != 0 then walk iterable
     assignTgt walk tgt true
    | .comprIf test =>
     newBranch fun onTrue => do
      steered onTrue onFalse (branchOn walk test)
      enter onTrue
    | _ => pure ()
   walk expr
   leadTo onFalse
   enter onFalse

def checkAwait (awaitToken : Token) : Binds := do
 let anc <- anc
 let scope := anc.execScope? (<- hasScope) node
 let isAsync := scope.any (·.fnParts?.any (·.isAsync))
 let isTopOfNotebook := (<- file).isNotebook && scope.any Node.isMod
 let parent := anc.parent? node
 let inGen := parent.any Node.isCompr && !isDisplayed (parent.bind anc.parent?)
 if !isAsync && !isTopOfNotebook && !inGen then reportError "awaitNotInAsync" awaitToken

/-! Names bound elsewhere. -/

def setBinding (binding : NameBinding) :=
 modify fun s => {s with world := s.world.modifyScope s.scope (·.setBinding name binding)}

def globalScope := do
 let state <- get
 return ((state.world.globalScope? state.scope).map Prod.fst).getD state.scope

def visitGlobal : Binds := do
 let outer <- globalScope
 for tgt in tgts do
  let name := tgt.nameVal
  let problem := reportName tgt
  if (<- curScope).binding? name == some .nonlocalName then problem "nonLocalAgain"
  let here := (<- get).scope
  if (<- lookUp? name).any (·.scope == here) then problem "globalReset"
  discard (bindName outer name)
  if here != outer then setBinding name .globalName

def visitNonlocal : Binds := do
 let outer <- globalScope
 let here := (<- get).scope
 if here == outer then reportError "nonLocalInMod" node
 else
  for tgt in tgts do
   let name := tgt.nameVal
   let problem := reportName tgt
   if (<- curScope).binding? name == some .globalName then problem "globalAgain"
   let some hit <- lookUp? name | problem "nonLocalNoBind"
   if hit.scope == here then problem "nonLocalReset"
   else if hit.scope == outer then problem "nonLocalNoBind"
   setBinding name .nonlocalName

/-! All nodes. -/

def visit : Binds := do
 let kids := walkAll walk node.kids
 match node.kind with
 | .suite stmts _ => visitStmts walk stmts
 | .modName .. =>
  checkModName node
  kids
 | .clsDef parts => visitCls walk node parts
 | .fnDef parts => visitFn walk node parts
 | .lambda pars _ => visitLambda walk node pars
 | .call lhs args _ => visitCall walk node lhs args
 | .tyParList pars => visitTyParList walk node pars
 | .tyAlias _ name tyPars expr => visitTyAlias walk node name tyPars expr
 | .assignment lhs rhs cmt chained => visitAssign walk node lhs rhs cmt chained
 | .walrus name _ rhs _ => visitAssignExpr walk node name rhs
 | .augmented lhs op rhs dest => visitAugAssign walk node lhs op rhs dest
 | .delStmt tgts => visitDel walk tgts
 | .annot val hint => visitAnnotated walk node val hint
 | .forStmt parts => visitFor walk node parts
 | .continueStmt => leaveBy .continues
 | .breakStmt => leaveBy .breaks
 | .returnStmt expr => visitReturn walk node expr
 | .yieldExpr expr => visitYield walk node expr false
 | .yieldFrom expr => visitYield walk node expr true
 | .memAccess lhs _ =>
  walk lhs
  markFlow node
 | .name .. => markFlow node
 | .idx lhs items _ => visitIdx walk node lhs items
 | .ifStmt _ test body orElse => visitBranches walk (<- staticTruth? test) test body orElse
 | .whileStmt _ test suite orElse => visitWhile walk test suite orElse
 | .assertStmt test exc => visitAssert walk test exc
 | .exceptClause parts => visitExcept walk node parts
 | .raiseStmt expr fromExpr => visitRaise walk node expr fromExpr
 | .tryStmt parts => visitTry walk parts
 | .await awaitToken _ _ =>
  checkAwait node awaitToken
  kids
 | .globalStmt tgts =>
  visitGlobal tgts
  kids
 | .nonlocalStmt tgts =>
  visitNonlocal node tgts
  kids
 | .importAs modName asName =>
  bindImportAs node modName asName
  kids
 | .importFrom parts =>
  bindImportFrom node parts
  kids
 | .withStmt parts => visitWith walk node parts
 | .ternary ifExpr test elseExpr => visitBranches walk none test ifExpr elseExpr
 | .unary _ op expr _ => visitUnaryOp walk op expr
 | .binary lhs _ op rhs _ => visitBinaryOp walk lhs op rhs
 | .compr expr forIfs _ _ => visitCompr walk node expr forIfs
 | .matchStmt _ subj cases => visitMatch walk node subj cases
 | .patAs orPats tgt => visitPatAs walk node orPats tgt
 | .patCapture tgt _ isWildcard =>
  if !isWildcard then capture walk tgt
  kids
 | .patExpandEnt tgt =>
  if tgt.nameVal != "_" then capture walk tgt
  kids
 | _ => kids

def walkIn : Nat -> Node -> Binds
 | 0, _ => pure ()
 | fuel + 1, node => delay fun _ => visit (walkIn fuel) node

def walkTree := walkIn Node.maxHeight node

end TypeChecker.Binding
