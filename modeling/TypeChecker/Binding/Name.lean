import TypeChecker.Binding.State

/-! Binding names to scopes and declaring variables. -/

namespace TypeChecker
namespace Binding
open Node Name
variable (state : State)
def boundElsewhere? (scope : Scope) (name : String) (binding : NameBinding) :=
 let start := match binding with
  | .nonlocalName => scope.parent
  | .globalName => (state.world.globalScope? state.scope).map Prod.fst
 (start.bind (state.world.lookUp? · name)).map HitSym.sym

def setPrivacy (sym : SymId) (name : String) (cur tgt : ScopeKind) : Binds := do
 if (cur matches .mod | .builtin) && isPrivateOrProtected name then
  let isPrivPick := modify fun s => {s with privPicks := s.privPicks.insert name sym}
  let hide := setFlags sym ({· with isHidden := true})
  let file <- file
  if isPrivate name then
   if tgt == .clsDef then hide else isPrivPick
  else if file.isStub || file.isTypedPkg then
   if cur == .builtin then hide else isPrivPick
  else setFlags sym ({· with privMem := true})

variable (scope : ScopeId) (hint : Node) (name : String) (node : Node)
def bindName : Bind SymId? := do
 let state <- get
 let here := state.world.scope state.scope
 if let some binding := here.binding? name then return boundElsewhere? state here name binding
 else
  let tgt := state.world.scope scope
  if let some sym := tgt.sym? name then pure sym
  else
   let sym <- addSym scope name {startsUnbound := true, clsMem := true}
   setPrivacy sym name here.kind tgt.kind
   pure sym

def bindHere := do bindName (<- get).scope node.nameVal

def bindTgtIn : Nat -> Node -> Binds
 | 0, _ => pure ()
 | fuel + 1, tgt =>
  match tgt.kind with
  | .name .. => discard (bindHere tgt)
  | .tup items _ | .list items => items.forM (bindTgtIn fuel)
  | .annot val _ => bindTgtIn fuel val
  | .unpack _ expr => bindTgtIn fuel expr
  | _ => pure ()

def bindTgt (tgt : Node) := bindTgtIn maxHeight tgt

def addIntrinsic (ty : String) : Binds := do
 let state <- get
 let scope := state.world.scope state.scope
 let flags := {clsMem := scope.kind == .clsDef, isHidden := (<- file).isStub && isPrivateOrProtected name}
 let sym <- if let some sym := scope.sym? name then pure sym else addSym state.scope name flags
 let decl <- makeDecl (.intrinsic ty) node default
 attach sym (<- addDecl decl)
 setFlags sym ({· with noProto := true})

/-! Annotations with a special meaning. -/

def unquoted := if let .strList _ (some inner) _ := hint.kind then inner else hint

def namesKnown (mods : Strings) (names : Std.HashMap String String) :=
 match (unquoted hint).kind with
 | .name val _ => names[val]? == name
 | .memAccess lhs mem => lhs.nameVal?.any fun base => mem.nameVal == name && mods.contains base
 | _ => false

def isTypingHint := namesKnown hint name state.typingMods state.typingNames
def isInitVarHint := namesKnown hint "InitVar" state.dataclassMods state.dataclassNames

def subscripted? : Option (Node × Nodes × Bool) :=
 if let .idx lhs items trailComma := hint.kind then (lhs, items, trailComma) else none

/-- What the hint has as its only subscript, if the hint that is subscripted is of the kind. -/
def soleIn (isKind : Node -> Bool) (hint : Node) : Bool × Node? :=
 let sole := (subscripted? hint).bind fun (lhs, items, trailComma) =>
  if isKind lhs then plainSubscript? items trailComma else none
 (sole.isSome, sole)

def annotatedBase? : Node? :=
 if let some (lhs, first :: _, _) := subscripted? hint then
  if isTypingHint state lhs "Annotated" then first.argVal else none
 else none

def clsVarIn (state : State) : Nat -> Node -> Bool × Node?
 | 0, _ => (false, none)
 | fuel + 1, hint =>
  let hint := unquoted hint
  if let some base := annotatedBase? state hint then clsVarIn state fuel base
  else if isTypingHint state hint "ClassVar" then (true, none)
  else soleIn (clsVarIn state fuel · |>.1) hint

def clsVar := clsVarIn state maxHeight hint

def finalIn (state : State) : Nat -> Node -> Bool × Node?
 | 0, _ => (false, none)
 | fuel + 1, hint =>
  let hint := (clsVar state hint).2.getD hint
  if isTypingHint state hint "Final" then (true, none)
  else if let some base := annotatedBase? state hint then finalIn state fuel base
  else soleIn (finalIn state fuel · |>.1) hint

def final := finalIn state maxHeight hint

def isInitVar :=
 (subscripted? hint).any fun (lhs, _, _) => isInitVarHint state lhs ||
  (annotatedBase? state hint).any fun base => (subscripted? base).any (isInitVarHint state ·.1)

/-! Members set in methods. -/

structure MemTgt where
 clsScope : ScopeId
 isInst : Bool

def autoClsMeths := ["__new__", "__init_subclass__", "__class_getitem__"]

def takesInst? (meth : FnParts Node) : Bool? := if autoClsMeths.contains meth.name.nameVal then false else go meth.decos
where
 go : Nodes -> Bool?
  | [] => true
  | deco :: rest =>
   let expr? := if let .deco expr := deco.kind then some expr else none
   let name? := expr?.bind fun expr => match expr.kind with
    | .name val _ => val
    | .memAccess lhs mem => if lhs.nameVal? == some "builtins" then mem.nameVal else none
    | _ => none
   match name? with
   | some "staticmethod" => none
   | some "classmethod" => false
   | _ => go rest

def memTgt? (tgt lhs : Node) : Bind (Option MemTgt) := do
 let anc <- anc
 let hit := do
  let base <- lhs.nameVal?
  let methNode <- anc.enclFn? tgt
  let meth <- methNode.fnParts?
  let clsNode <- anc.enclCls? methNode true
  let clsParts <- clsNode.clsParts?
  let first <- meth.pars.head?.bind parParts?
  let firstName <- first.name
  if base == clsParts.name.nameVal then return (clsNode, false)
  if base != firstName.nameVal then none
  let isInst <- takesInst? meth
  pure (clsNode, isInst)
 let some (clsNode, isInst) := hit | pure none
 if let some clsScope := (<- get).nodeScope[clsNode.id]? then return some {clsScope, isInst}
 else
  failAssertion
  pure none

def addMem (flags : SymFlags) : Bind SymId := do
 let sym <- addSym scope name flags
 if isPrivateOrProtected name && (<- file).rules.level .privUsage != .none then
  setFlags sym ({· with privMem := true})
 pure sym

def memSym := do
 if let some sym := ((<- world).scope scope).sym? name then pure sym else addMem scope name {startsUnbound := true}

/-! Declaring variables. -/

def docOf : Bind Text? := return ((<- anc).varDocNode? node).map stringsVal
def isBoundElsewhere := return ((<- curScope).binding? name).isSome
def inferredNames := ["__match_args__", "__slots__", "__all__"]

variable (sym : SymId)
def declareVar (name : String) (node : Node) (facts : VarFacts) :=
 discard (declareAt sym (.variable {facts with isConstant := isConstant name}) node node)

def declareIn (src : Node) : Nat -> Bool -> Node -> Binds
 | 0, _, _ => pure ()
 | fuel + 1, mayBeAlias, tgt =>
  match tgt.kind with
  | .name val _ => do
   let some hit <- lookUp? val | pure ()
   declareVar hit.sym val tgt
    {inferredSrc := src, isInferredInTypedPkg := inferredNames.contains val
     tyAliasName := if mayBeAlias then tgt else none, docStr := <- docOf tgt, isDeclaring := <- isBoundElsewhere val}
  | .memAccess lhs mem => do
   let some place <- memTgt? tgt lhs | pure ()
   let sym <- memSym place.clsScope mem.nameVal
   let world <- world
   if place.isInst then
    let isMeth := (world.declsOf sym).any (·.asFn?.any (·.isMeth))
    if !((world.sym sym).flags.clsMem && isMeth) then setFlags sym ({· with instMem := true})
   else setFlags sym ({· with clsMem := true})
   declareVar sym mem.nameVal mem {inferredSrc := src, isMemDefined := true, docStr := <- docOf tgt}
  | .tup items _ | .list items => items.forM (declareIn src fuel false)
  | .annot val _ => declareIn src fuel false val
  | .unpack _ expr => declareIn src fuel false expr
  | _ => pure ()

def declareInferred (tgt src : Node) (mayBeAlias : Bool := false) := declareIn src maxHeight mayBeAlias tgt

def declareTyped (tgt hint : Node) : Binds := do
 let state <- get
 let (isFinal, finalTy) := final state hint
 match tgt.kind with
 | .name val _ =>
  let some hit <- lookUp? val | pure ()
  let (isClsVar, clsVarTy) := clsVar state hint
  let isUntyped := (isFinal && finalTy.isNone) || (isClsVar && clsVarTy.isNone)
  let anc <- anc
  let isAssigned node := node.any (·.kind matches .assignment ..)
  let parent := anc.parent? tgt
  let isFinalInCls := isFinal && (anc.enclClsOrFn? tgt).any isCls &&
   (isAssigned parent || isAssigned (parent.bind anc.parent?))
  declareVar hit.sym val tgt
   {isFinal, tyAliasName := tgt, hint := if isUntyped then none else hint
    docStr := <- docOf tgt, isDeclaring := <- isBoundElsewhere val}
  if isFinalInCls then setFlags hit.sym ({· with finalVarInClsBody := true})
  if isClsVar then setFlags hit.sym ({· with clsVar := true})
  else if !isFinalInCls then setFlags hit.sym ({· with instMem := true})
  if isInitVar state hint then setFlags hit.sym ({· with initVar := true})
 | .memAccess lhs mem =>
  let some place <- memTgt? tgt lhs | report .invalidTyForm "annotBarred" hint
  let sym <- memSym place.clsScope mem.nameVal
  if place.isInst then setFlags sym ({· with instMem := true}) else setFlags sym ({· with clsMem := true})
  declareVar sym mem.nameVal mem
   {isMemDefined := true, isFinal, hint := if isFinal && finalTy.isNone then none else hint, docStr := <- docOf tgt}
 | _ => report .invalidTyForm "annotBarred" hint

def declareBound (tgt : Node) (src : Node?) : Binds := do
 declareVar sym tgt.nameVal tgt {inferredSrc := src, isDeclaring := <- isBoundElsewhere tgt.nameVal}

def declareSlots (slots : Nodes) : Binds := do
 let scope := (<- get).scope
 let nameOf slot := (slot.strings?.getD []).head?.elim "" (Text.toString ·.strVal)
 for slot in slots do
  let name := nameOf slot
  if name != "__dict__" then
   let sym <- if let some sym := (<- curScope).sym? name then
     setFlags sym ({· with clsMem := true, instMem := true, slotsMem := true})
     pure sym
    else addMem scope name {startsUnbound := true, clsMem := true, instMem := true, slotsMem := true}
   declareVar sym name slot {isDefinedBySlots := true, isDeclaring := <- isBoundElsewhere name}
 if !(slots.any (nameOf · == "__dict__")) then
  modify fun s => {s with world := s.world.modifyScope scope ({· with slots := (slots.map nameOf)})}

/-! ## Flow -/

structure NarrowingOpts where
 (neverOnly isComplex : Bool := false)
 allowMems := false

namespace NarrowingOpts

def complex (opts : NarrowingOpts) := {opts with isComplex := true}

end NarrowingOpts
variable (opts : NarrowingOpts) (node : Node) (walk : Node -> Binds) (cond : Node)
def refsOf :=
 let whenRef base := if base.isRef then [base] else []
 node :: if opts.neverOnly then [] else match node.kind with
  | .memAccess lhs _ => if opts.allowMems then whenRef lhs else []
  | .idx lhs [item] false => if let .arg .simple _ _ := item.kind then whenRef lhs else []
  | _ => []

def isCompareWithNone (rhs : Node) := rhs.kind matches .const .noneKw

def tyArg? : Node? :=
 if let .call callee [arg] _ := node.kind then
  match callee.nameVal?, arg.kind with
  | some "type", .arg .simple _ val => val
  | _, _ => none
 else none

def isWholeNum := if let .number val _ := node.kind then val.isInteger else false

def narrowedIn : Nat -> NarrowingOpts -> Node -> Bool × Nodes
 | 0, _, _ => (false, [])
 | fuel + 1, opts, node =>
  let narrowed := narrowedIn fuel
  match node.kind with
  | .name .. => if opts.neverOnly && !opts.isComplex then (false, []) else (true, refsOf opts node)
  | .memAccess .. | .idx .. => if opts.neverOnly || !node.isRef then (false, []) else (true, refsOf opts node)
  | .walrus name _ rhs _ => (true, name :: (narrowed opts.complex rhs).2)
  | .binary lhs _ op rhs _ =>
   let isIdentity := op matches .is | .isNot
   let isEquality := op matches .equals | .notEquals
   let isOrder := op matches .lessThan | .lessThanOrEqual | .greaterThan | .greaterThanOrEqual
   if isIdentity || isEquality then
    if isCompareWithNone rhs then narrowed {opts.complex with allowMems := true} lhs
    else if let some val := if isIdentity then tyArg? lhs else none then narrowed opts.complex val
     else narrowed {opts.complex with allowMems := true} lhs
   else if isWholeNum rhs && isOrder then narrowed opts.complex lhs
   else if op matches .isIn | .notIn then
    let lhsRes := narrowed opts.complex lhs
    let rhsRes := narrowed opts.complex rhs
    if (lhs.kind matches .strList ..) then
     if rhsRes.1 then rhsRes else (lhsRes.1, rhsRes.2 ++ lhsRes.2 ++ rhsRes.2)
    else (lhsRes.1 || rhsRes.1, lhsRes.2 ++ rhsRes.2)
   else (false, [])
  | .unary _ op expr _ => if op == .not then narrowed {opts with isComplex := false} expr else (false, [])
  | .augmented _ _ rhs _ => narrowed opts.complex rhs
  | .call callee args _ =>
   let first? := args.head?.map .argVal
   if let some first := first? then
    let isKnownTest := match callee.nameVal? with
     | some "isinstance" | some "issubclass" => args.length == 2
     | some "callable" => args.length == 1
     | _ => false
    if isKnownTest || !opts.neverOnly then narrowed opts.complex first else (false, [])
   else (false, [])
  | _ => (false, [])

def narrowed := narrowedIn Node.maxHeight opts node

def assign (unbinds : Bool := false) : Binds := do
 let sym <- match node.nameVal? with
  | none => pure none
  | some name => do
   if let some hit <- lookUp? name then pure hit.sym
   else
    failAssertion
    pure none
 let before <- cur
 if !(<- isDead) && node.isRef then
  pass (.assignment node unbinds sym)
  if (node.kind matches .memAccess ..) then leadBy .raises
 if !unbinds || !(<- get).nodeFlow.contains node.id then
  let after <- cur
  setFlow node (if unbinds then before else after)

def assignTgtIn (unbinds : Bool) : Nat -> Bool -> Node -> Binds
 | 0, _, _ => pure ()
 | fuel + 1, walks, tgt => do
  let recurse := assignTgtIn unbinds fuel
  match tgt.kind with
  | .name .. | .memAccess .. | .idx .. =>
   assign tgt unbinds
   if walks then walk tgt
  | .tup items _ | .list items => items.forM (recurse walks)
  | .annot val _ =>
   recurse false val
   if walks then walk tgt
  | .unpack _ expr =>
   recurse false expr
   if walks then walk tgt
  | _ => if walks then walk tgt

def assignTgt (tgt : Node) (walks : Bool) (unbinds : Bool := false) := assignTgtIn walk unbinds Node.maxHeight walks tgt

def passCall : Binds := do
 if !(<- isDead) then
  leadBy .raises
  pass (.call node)

def passFullMatch (subj : Node) : Binds := do
 if !(<- isDead) then pass (.fullMatch node subj)
 setAfterFlow node (<- cur)

/-! Conditions. -/

/-- What control meets when a condition is to hold. -/
inductive Gate where
 | free
 | excluded
 | narrows (kind : FlowKind)

def gate (kind : CondKind) (expr : Node) : Bind Gate := do
 if <- isDead then return .free
 let excluded : Bool := match <- staticTruth? expr with
  | some true => kind == .isFalse
  | some false => kind == .isTrue
  | none => false
 if excluded then return .excluded
 let (isNarrowing, mentioned) := narrowed {neverOnly := kind == .isTrueNever || kind == .isFalseNever} expr
 if !isNarrowing then return .free
 addRefs mentioned
 return .narrows (.cond kind expr (mentioned.find? Node.isName))

def passGate : Gate -> Binds
 | .free => pure ()
 | .excluded => setCur FlowNode.excludedId
 | .narrows kind => do
  pass kind
  leadBy .raises

def leadWhen (jump : Jump) (kind : CondKind) (expr : Node) : Binds := do
 match <- gate kind expr with
 | .excluded => leadBy jump [FlowNode.excludedId]
 | gate => aside do
  passGate gate
  leadBy jump

def isLogical (expr : Node) : Bool :=
 match expr.kind with
 | .unary _ op _ _ => op == .not
 | .binary _ _ op _ _ => (op matches .and | .or)
 | _ => false

def branchOn : Binds := do
 walk cond
 if !isLogical cond then
  leadWhen .whenTrue .isTrue cond
  leadWhen .whenFalse .isFalse cond

def branchNeverIn : Nat -> Node -> (tgt : FlowId) -> Bool -> BindWith [tgt] Unit
 | 0, _, _, _ => pure ()
 | fuel + 1, cond, tgt, holds => do
  let leaf := do
   let (isNarrowing, mentioned) := narrowed {neverOnly := true} cond
   if isNarrowing && mentioned.any Node.isName then
    passGate (<- gate (if holds then .isTrueNever else .isFalseNever) cond)
   leadTo tgt
  match cond.kind with
  | .unary _ op expr _ => if op == .not then branchNeverIn fuel expr tgt !holds else leaf
  | .binary lhs _ op rhs _ =>
   if op != .and && op != .or then leaf
   else if (op == .and) != holds then
    aside (branchNeverIn fuel lhs tgt holds)
    branchNeverIn fuel rhs tgt holds
   else rewindIf do
    let initial <- cur
    newBranch fun after => do
     lend (branchNeverIn fuel lhs after holds)
     if initial == (<- cur) then return false
     enter after
     let before <- cur
     lend (branchNeverIn fuel rhs tgt holds)
     return before == (<- cur)
  | _ => leaf

def branchNever (tgt : FlowId) := branchNeverIn Node.maxHeight cond tgt false

end Binding
end TypeChecker
