import TypeChecker.Checking.Expression
import TypeChecker.Infer.Statement

/-! Statements: exceptions, imports, code that never runs, what a stub may hold, and uses of what is marked as
deprecated. -/

namespace TypeChecker.Check
open Infer
structure ReplacedAlias where
 minor := 9
 (fullName repl : String)
 onlyFromTyping := true

def absCollections :=
 words "Awaitable Coroutine AsyncIterable AsyncIterator AsyncGenerator Iterable Iterator Generator Reversible Container
Collection MutableSet Mapping MutableMapping Sequence MutableSequence ByteString MappingView KeysView ItemsView
ValuesView Callable"

def replacedAlias? (name : String) : Option ReplacedAlias :=
 let builtin (name : String) : ReplacedAlias := {fullName := "builtins." ++ name, repl := name, onlyFromTyping := false}
 let moved (name : String) (onlyFromTyping : Bool) : ReplacedAlias := {fullName := name, repl := name, onlyFromTyping}
 match name with
 | "Tuple" => builtin "tuple"
 | "List" => builtin "list"
 | "Dict" => builtin "dict"
 | "Set" => builtin "set"
 | "FrozenSet" => builtin "frozenset"
 | "Type" => builtin "type"
 | "Deque" => moved "collections.deque" false
 | "DefaultDict" => moved "collections.defaultdict" false
 | "OrderedDict" | "Counter" | "ChainMap" => moved ("collections." ++ name) true
 | "Pattern" | "Match" => moved ("re." ++ name) true
 | "AbstractSet" => some {fullName := "typing.AbstractSet", repl := "collections.abc.Set"}
 | "ContextManager" | "AsyncContextManager" =>
  some {fullName := "typing." ++ name, repl := "contextlib.Abstract" ++ name, onlyFromTyping := false}
 | "Optional" => some {minor := 10, fullName := "typing.Optional", repl := "| None", onlyFromTyping := false}
 | "Union" => some {minor := 10, fullName := "typing.Union", repl := "|", onlyFromTyping := false}
 | _ => if absCollections.contains name then
   some {fullName := "typing." ++ name, repl := "collections.abc." ++ name} else none

variable [Evals] (node : Node)
def reportStale (msg : String) (info : String := "") : Act := do
 let msg := msg ++ (if info.isEmpty then .empty else Adden.empty.addMsg info).print
 if <- isReported .deprecated node then report .deprecated msg node else reportDeprecated msg node

def checkStaleAccess (info : AccessDepr) :=
 let msg := match info.isProp, info.meth with
  | true, .get => "oldPropGetter"
  | true, .set => "oldPropSetter"
  | true, .del => "oldPropDel"
  | false, .get => "oldDescrGetter"
  | false, .set => "oldDescrSetter"
  | false, .del => "oldDescrDel"
 reportStale node (say msg [node.nameVal]) info.msg

def checkStale (res : Typed?) : Act := do
 if let some info := res.bind (·.magicDepr) then
  reportStale node (say "oldMeth" [info.methName, info.clsName]) info.msg

def fnMsg (ty : Ty) : Eval String := do
 let node <- ty.fn.decl.mapM fun id => return (<- declAt id).node
 let anc <- tree
 let owner := (node.filter (·.isFn)).bind (anc.enclCls? · true)
 let some parts := owner.bind (·.clsParts?) | return say "oldFn" [ty.fn.name]
 return say "oldMeth" [if ty.fn.name.isEmpty then "<anonymous>" else ty.fn.name, parts.name.nameVal]

def ovlsAt := do
 let anc <- tree
 let res <- if let some call := anc.callOfName? node then resAt? call
  else if let some deco := anc.decoOfName? node then tyOfSubnode? deco (Evals.evalExpr (deco.kids.headD deco))
   else pure none
 return res.elim [] (·.ovlsUsed)

def outdated? (part : Ty) : Eval (Option (String × String)) := do
 let name := node.nameVal
 let ofOvls := do
  let mut hit := none
  for ovl in <- ovlsAt node do
   let some info := ovl.fn.depr | continue
   if name == ovl.fn.name then hit := (<- fnMsg ovl, info)
   else if part.isClsObj && ["__init__", "__new__"].contains ovl.fn.name then
    hit := (say "oldCtor" [part.clsName], info)
   else if part.isObj && ovl.fn.name == "__call__" then hit := (say "oldFn" [name], info)
  pure hit
 match part.form with
 | .cls data =>
  let info := (<- infoOf part).depr.filter fun _ => !data.orSub && name == part.clsName
  let some info := info | ofOvls
  pure (say "oldCls" [part.clsName], info)
 | .fn data =>
  let info := data.depr.filter fun _ => data.name.isEmpty || data.name == "__call__" || name == data.name
  info.mapM fun info => return (<- fnMsg part, info)
 | .ovld .. =>
  let hit <- ofOvls
  let some impl := part.impl?.filter (·.isFn) | pure hit
  let some info := impl.fn.depr | pure hit
  if impl.fn.name.isEmpty || name == impl.fn.name then return (<- fnMsg impl, info)
  pure hit
 | _ => pure none

def checkStaleTy (ty : Ty?) (isFromTyping : Bool := false) : Act := do
 let some ty := ty | return
 let mut hit := none
 for part in ty.subtys do hit := (<- outdated? node part) <|> hit
 if let some (msg, info) := hit then reportStale node msg info
 if <- isOn node .deprecateTypingAliases then
  let some replaced := replacedAlias? node.nameVal | return
  let isIt := (ty.isClsObj && ty.clsFullName == replaced.fullName) ||
   ty.aliasUse?.any (·.shared.fullName == replaced.fullName)
  let ver := .three replaced.minor
  if isIt && !(<- fileOf node).ver.isLessThan ver && (!replaced.onlyFromTyping || isFromTyping) then
   reportStale node (say "oldTy" [ver.print, replaced.repl])

/-! ### Exceptions -/

def isCatchable (isGroup : Bool) (base group : Ty) : Nat -> Ty -> Ask
 | 0, _ => pure true
 | fuel + 1, ty => ty.subtys.allM fun part => do
  if part.isAnyLike || !part.isCls then return true
  let u <- univ
  let derives cls_ := !cls_.isClsObj || u.derivesFromCls part cls_ false
  if part.isInsta then return derives base && !(isGroup && derives group)
  let some args := part.tupArgs? | pure false
  pure (fuel != 0) <&&> args.allM (isCatchable isGroup base group fuel ·.ty)

def checkCaught (ty : Ty) (node : Node) (isGroup : Bool) : Act := do
 let base <- builtinTy node "BaseException"
 let group <- builtinTy node "BaseExceptionGroup"
 if !(<- isCatchable isGroup base group 2 ty) then blame "excTyNotCls" node [<- printTy ty]

variable (node : Node)
def reportUnreached (reach : Reach) (span : Span) : Act := do
 if <- isMuted node then return
 match reach with
 | .reachable => return
 | .structural => addToSink node .unreachCode (say "deadCodeStructure") span
 | .staticCond => addToSink node .unreachCode (say "deadCodeCondition") span
 | .byAnalysis => if <- isOn node .enableReachAnalysis then addToSink node .unreachCode (say "deadCodeTy") span

def caughtClasses (ty : Ty) : Eval (Tys × Bool) := do
 if ty.isClsObj then return ([ty], ty.cls.orSub)
 if !ty.isObj then return ([], true)
 let item := (<- iterated ty false node false).elim .unk (·.ty)
 let classes := item.subtys.filter (·.isClsObj)
 pure (classes, item.subtys.any (·.isAnyLike) || classes.any (·.cls.orSub))

def checkUnusedClauses (clauses : Nodes) : Act := do
 let mut seen := []
 for clause in clauses do
  let .exceptClause parts := clause.kind | continue
  let some expr := parts.tyExpr | continue
  if parts.isGroup then continue
  let some ty <- tyAt? expr | return
  if ty.isAnyLike then return
  let (classes, isOpen) <- caughtClasses expr ty
  if isOpen then return
  let mut notes := .empty
  let mut hidden := 0
  if !seen.isEmpty then
   for cls_ in classes do
    let u <- univ
    if let some parent := seen.find? fun parent => u.derivesFromCls cls_ parent then
     notes := notes.say "deadExceptNote" [<- printTy cls_.toInst, <- printTy parent.toInst]
     hidden := hidden + 1
   if !classes.isEmpty && hidden == classes.length then
    flag .unusedExcept "deadExcept" expr [] notes
    report .dead (say "deadCodeTy") parts.suite parts.token
    reportUnreached clause .byAnalysis parts.suite
  seen := seen ++ classes

/-! ### Stubs -/

def isStubStmt : Bool :=
 match node.kind with
 | .assertStmt .. | .walrus .. | .await .. | .binary .. | .const _ | .delStmt _
 | .dict .. | .idx .. | .forStmt _ | .formatStr .. | .globalStmt _ | .lambda .. | .list _
 | .memAccess .. | .name .. | .nonlocalStmt _ | .number .. | .raiseStmt .. | .returnStmt _ | .set _
 | .slice .. | .ternary .. | .tup .. | .tryStmt _ | .unary .. | .unpack .. | .whileStmt ..
 | .withStmt _ | .withItem .. | .yieldExpr _ | .yieldFrom _ => false
 | .augmented lhs op _ _ => op == .addEqual && lhs.nameVal? == some "__all__"
 | .call {kind := .memAccess lhs _, ..} _ _ => lhs.nameVal? == some "__all__"
 | .call .. => false
 | _ => true

def checkStubStmt (stmt : Node) : Act := do
 let bad := match stmt.kind with
  | .whileStmt .. | .forStmt _ | .tryStmt _ | .withStmt _ => [stmt]
  | .stmtList _ stmts => stmts.filter (!isStubStmt ·)
  | _ => []
 for node in bad do flag .invalidStubStmt "badStubStmt" node

/-! ### Imports -/

variable (mod : Node)
def checkSrcOf (res : ImportRes) : Act := do
 if res.isNative || !res.isStub || res.kind == .builtIn then return
 if res.nonStub.any (!·.isHit) then flag .missingModSrc "impSrcLost" mod [res.name]

def checkSrc : Act := do
 if <- inStub mod then return
 ((<- get).imports[mod.id]?).forM (checkSrcOf mod)

def checkWild (parts : ImportFromParts Node) : Act := do
 let some res := (<- get).imports[parts.modName.id]? | return
 if res.isHit && res.kind != .local && !(<- inStub node) then
  reportSpan node .wildImportFromLib (say "wildLibImp") (parts.wildcardToken.elim node (·.span))

def isImportUnused (names : Strings) := do
 let some res <- tyOfSubnode? node (Evals.evalStmt node) | pure false
 let rec follow (mod : Ty) : Strings -> Ask
  | [] => pure false
  | name :: rest => do
   if !mod.isMod then return false
   let some sym <- modField? mod name | pure false
   if rest.isEmpty then return !(<- get).accessed.contains sym
   let some next <- synthTy? sym | pure false
   follow next rest
 follow res.ty (names.drop 1)

def checkDottedImport : Act := do
 let .importAs mod none := node.kind | return
 let .modName _ parts _ := mod.kind | return
 let (some first, some last) := (parts.head?, parts.getLast?) | return
 if parts.length < 2 || !(<- isImportUnused node (parts.map (·.nameVal))) then return
 let name := ".".intercalate (parts.map (·.nameVal))
 let span := {start := first.start, length := last.stop - first.start}
 addToSink node .unusedCode (say "unreadSym" [name]) span
 reportSpan node .unusedImport (say "unreadImp" [name]) span

def checkRepeatedImports : Act := do
 let mut mods := []
 for stmt in mod.stmts.flatMap fun stmt => if let .stmtList _ stmts := stmt.kind then stmts else [] do
  match stmt.kind with
  | .importFrom parts =>
   let mut names := []
   for ent in parts.imports do
    if let .importFromAs name none := ent.kind then
     let val := name.nameVal
     if names.contains val then flag .duplicateImport "dupImp" name [val]
     else names := names ++ [val]
  | .importStmt ents =>
   for ent in ents do
    if let .importAs {kind := .modName dots parts _, ..} none := ent.kind then
     let val := "".pushn '.' dots ++ ".".intercalate (parts.map (·.nameVal))
     if mods.contains val then flag .duplicateImport "dupImp" ent [val] else mods := mods ++ [val]
  | _ => pure ()

def checkExports : Act := do
 let some bound <- bound? mod | return
 let some listed := bound.listed | return
 for name in listed.names do if let some hit := (<- get).scopes.lookUp? bound.scope name then markRead hit.sym mod
 for node in listed.nodes do
  let name := node.strVal.toString
  if ((<- get).scopes.scope bound.scope).sym? name |>.isNone then
   flag .unsupportedDunderAll "dunderAllLost" node [name]

end TypeChecker.Check
