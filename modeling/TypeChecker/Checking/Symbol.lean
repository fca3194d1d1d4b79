import TypeChecker.Checking.Override

/-! The symbols of a scope when all of it was evaluated: those that nothing reads, those that are declared in
two ways, and those that may be assigned once. -/

namespace TypeChecker
namespace Check
open Infer
structure Ref where
 decl : Decl
 id : Option DeclId := none

namespace Ref

def mod (uri : ModUri) : Ref :=
 {decl := {kind := .importAlias {load := false} none, node := default, uri, range := default, modName := ""
           inExcept := false}}

def withoutLocalName (referent : Ref) := if let .importAlias facts fallback := referent.decl.kind then
  {referent with decl.kind := .importAlias {facts with usesLocalName := false} fallback}
 else referent

end Ref
variable [Evals]
def refOf (id : DeclId) : Eval Ref := return {decl := <- declAt id, id}

def Ref.resolve? (referent : Ref) (localNames : Bool) (allowHidden : Bool := false) : Eval (Option Ref) := do
 match referent.decl.asAlias?, referent.id with
 | some facts, some id =>
  if facts.symName.isNone || facts.usesLocalName && !localNames then return referent
  let some hit <- resolveAlias id localNames allowHidden true | pure none
  return hit.decl.map fun decl => {decl, id := hit.id}
 | _, _ => pure referent

variable (node : Node)
def memSym? (base : Ty) (name : String) : Eval SymId? := do
 if base.isClsObj then
  if let some mem <- clsMem? base name {declOnly := true} then return mem.sym
  if let some mem <- clsMem? base name then return mem.sym
  let some mcls := (<- infoOf base).metaTy.filter (·.isClsObj) | return none
  return (<- clsMem? mcls name).map (·.sym)
 if base.isObj then
  if let some mem <- objMem? base name {declOnly := true} then return mem.sym
  return (<- objMem? base name).map (·.sym)
 if base.isMod then return <- modField? base name
 pure none

def preferredDecls (sym : SymId) := do
 let ids := (<- symAt sym).decls.toList
 let typed <- ids.filterM fun id => return (<- declAt id).hasTy
 return if typed.isEmpty then ids else typed

def referentsOf (sym : SymId) : Eval (List Ref) := do (<- symAt sym).decls.toList.mapM refOf

def refsIn (name : String) : Eval (List Ref) := do
 let some scope <- scopeIdOf? node | pure []
 let some sym := ((<- get).scopes.scope scope).sym? name | pure []
 referentsOf sym

def kwRefs (fn : Ty) (name : String) : Eval (List Ref) := do
 let some id := fn.fn.decl | pure []
 let hit <- refsIn (<- declAt id).node name
 return (hit.filter (·.decl.kind matches .par _)).take 1

def argRefs (call callee : Node) (name : String) : Eval (List Ref) := do
 let some base <- tyAt? callee | pure []
 match base.form with
 | .fn _ => kwRefs base name
 | .ovld ovls _ => pure (<- ovls.mapM (kwRefs · name)).flatten
 | _ =>
  if !base.isClsObj then return []
  let some init := (<- initMeth call base.toInst).1 | pure []
  if !init.ty.isFn then return []
  let hit <- kwRefs init.ty name
  let info <- infoOf base
  if !hit.isEmpty || !(info.dataClsBehav.isSome || info.flags.tdict ||
    info.namedTupEnts.any (·.contains name)) then return hit
  let some mem <- clsMem? base name | pure []
  referentsOf mem.sym

def refsAt : Eval (List Ref) := do
 let anc <- tree
 match anc.parent? node with
 | some {kind := .memAccess lhs mem, ..} =>
  if mem == node then
   let some base <- tyAt? lhs | return []
   let syms <- (<- firm base).subtys.filterMapM fun part => do memSym? (<- firm part) node.nameVal
   return <- (<- syms.mapM preferredDecls).flatten.mapM refOf
 | some parent@{kind := .importFromAs name (some asName), ..} =>
  if name == node then
   let some scope <- scopeOf? node | return []
   let some hit := (<- get).scopes.lookUp? scope asName.nameVal | return []
   let here := (<- referentsOf hit.sym).filter fun hit => hit.decl.asAlias?.isSome && hit.decl.node == parent
   return here.map (·.withoutLocalName)
 | some parent@{kind := .modName _ parts _, ..} =>
  let res := ((<- get).imports[parent.id]?).filter (!·.isNative)
  let uri := res.bind fun res => (parts.findIdx? (· == node)).bind (res.resolved[·]?)
  return (uri.filter (!·.isEmpty)).toList.map .mod
 | some parent@{kind := .arg _ (some name) _, ..} =>
  if name == node then
   let some call@{kind := .call callee .., ..} := anc.parent? parent | return []
   return <- argRefs call callee node.nameVal
 | _ => pure ()
 let isHint := anc.isInHint node (!(<- postponesAnnots node))
 let isFwd := isHint || (anc.nearestOfKind? node fun node => if let .tyAlias .. := node.kind then true
  else false).isSome || (<- inStub node)
 let some hit <- lookUpName node node.nameVal (!isFwd) isHint | pure []
 referentsOf hit.sym

variable (node : Node)
def checkBound : Act := do
 if !(<- isReported .unboundVar node) || (<- isLhsOut node) then return
 let some ty <- tyAt? node | return
 if ty.isUnbound then
  if <- isReachable node then flag .unboundVar "symIsUnbound" node [node.nameVal]
 else if ty.isPossiblyUnbound then flag .possiblyUnboundVar "symIsMaybeUnbound" node [node.nameVal]

def privDecl? : Eval (Option Decl) := do
 if <- isLhsOut node then return none
 let hit := (<- refsAt node).filter (!·.decl.asVar?.any (·.isDeclaring))
 let some {decl, id := some id} := hit.getLast? | pure none
 if decl.node == node then return none
 let some aliased := decl.asAlias? | pure decl
 if aliased.usesLocalName then return none
 let some resolution <- resolveAlias id true false | pure none
 return resolution.decl.filter (resolution.path.isPrivate && ·.node != node)

def checkPrivUse : Act := do
 if !(<- isReported .privUsage node) || (<- inStub node) then return
 let isKw := if let some (.arg _ name _) := <- parentKind? node then name == node else false
 let name := node.nameVal
 let isProtected := Name.isProtected name
 if isKw || !Name.isPrivate name && !isProtected then return
 let some decl <- privDecl? node | return
 let anc <- tree
 let some owner := anc.enclCls? decl.node | return
 let owner := if anc.parent? decl.node == owner then anc.enclCls? owner else owner
 let some owner := owner | return
 let mut isProtectedUse := false
 if isProtected then
  if let some made <- Evals.tyOfCls owner then
   if made.decorated.isClsObj then
    if (<- flagsOf made.decorated).definedInStub then return
    isProtectedUse := true
    if let some outer := anc.enclCls? node then
     if let some user <- Evals.tyOfCls outer then
      if user.decorated.isClsObj && (<- univ).derivesFromCls user.decorated made.decorated then return
 if !(<- isInside node owner) then
  report .privUsage (say (if isProtectedUse then "protUsedOutCls" else "privUsedOutCls") [name]) node

variable (decl : Decl)
def nameOf := decl.nameNode?.getD decl.node

/-! ### Symbols that nothing reads -/

variable (name : String)
def isPrivIn : ScopeKind -> Bool
 | .fn | .compr => true
 | kind => Name.isPrivate name || Name.isProtected name && kind != .clsDef

structure UnusedName where
 node : Node
 rule : Option (Rule × String) := none
 isReported := true

def importedName? : Eval Node? := do
 match decl.node.kind with
 | .importAs mod asName =>
  match asName, mod.kind with
  | some name, _ => return if name.nameVal == decl.modName then none else name
  | none, .modName _ [part] _ => pure part
  | _, _ => pure none
 | .importFromAs name asName =>
  let isFuture := match <- parentKind? decl.node with
   | some (.importFrom parts) => if let .modName _ [part] _ := parts.modName.kind then part.nameVal == "__future__"
    else false
   | _ => false
  return if isFuture || asName.any (·.nameVal == name.nameVal) then none else asName.getD name
 | _ => pure none

variable (isPrivate : Bool) (decls : List Decl) (sym : SymId) (scope : ScopeKind)
def unusedName? : Eval (Option UnusedName) := do
 let isHidden := isPrivate && !(<- inStub decl.node)
 match decl.kind with
 | .importAlias .. =>
  return (<- importedName? decl).map fun node => {node, rule := some (.unusedImport, "unreadImp")}
 | .tyAlias _ | .variable _ | .par _ =>
  if !isHidden then return none
  let rule := some (.unusedVar, "unreadVar")
  match decl.node.kind with
  | .name val _ => return some {node := decl.node, rule, isReported := !val.startsWith "_"}
  | .par parts => return parts.name.map fun node => {node, rule, isReported := false}
  | _ => pure none
 | .clsDef =>
  return if isHidden then some {node := nameOf decl, rule := some (.unusedCls, "unreadCls")} else none
 | .fn _ => return if isHidden then some {node := nameOf decl, rule := some (.unusedFn, "unreadFn")} else none
 | .tyPar => return some {node := nameOf decl}
 | .intrinsic _ | .specialCls => pure none

def checkUnusedDecl (decl : Decl) : Act := do
 let some unused <- unusedName? decl isPrivate | return
 let name := unused.node.nameVal
 if let .importAs mod none := decl.node.kind then
  if let .modName _ [_] _ := mod.kind then flag .unusedImport "unreadImp" unused.node [name]
 addToSink unused.node .unusedCode (say "unreadSym" [name]) unused.node
 if let some (rule, msg) := unused.rule then if unused.isReported then flag rule msg unused.node [name]

def checkUnusedSym : Act := do
 let world <- get
 if (<- symFlags sym).noProto || world.accessed.contains sym ||
  world.users.any fun block => world.accessedFrom.contains (block, sym) then return
 if name == "_" || Name.isDunder name then return
 (<- declsOf sym).forM (checkUnusedDecl (isPrivIn name scope))

/-! ### Symbols that are declared more than once -/

def obscured (primary : Decl) (others : List Decl) : Eval (List Decl) := do
 if !primary.node.isFn then return others
 let first <- Evals.tyOfFn primary.node
 let prop <- first.mapM (firm ·.decorated)
 others.filterM fun other => do
  if !other.node.isFn then return true
  let some made <- Evals.tyOfFn other.node | pure true
  let u <- univ
  if let some prop := prop.filter fun ty => ty.isObj && u.isProp ty then
   if made.decorated.isObj && u.isProp made.decorated then return made.decorated.cls.ref.srcId != prop.cls.ref.srcId
  pure !made.fnTy.fn.flags.ovld

def declAs : Eval Ty? := do
 let ty := (<- Evals.tyForDecl decl).ty
 if let some ty := ty then if ty.isFn then discard (effRet ty)
 pure ty

def checkObscured : Act := do
 let ids := (<- symAt sym).decls.toList
 let some primaryId <- ids.reverse.findM? fun id => return (<- declAt id).hasTy | return
 if name == "_" then return
 let primary <- declAt primaryId
 let others <- obscured primary (<- (ids.filter (· != primaryId)).mapM declAt)
 let isPar := primary.kind matches .tyPar
 for other in others do
  let rule msg := flag .redeclaration msg (nameOf other) [name]
  match other.kind with
  | .clsDef => if !isPar then rule "hidClsDecl"
  | .fn data =>
   let ty <- declAs primary
   let otherTy <- declAs other
   let anc <- tree
   let isApart := anc.enclSuite? primary.node != anc.enclSuite? other.node
   let isSame := isApart && (ty.bind (otherTy.map ·.isSame)) == true
   if !isSame && !isPar then rule (if data.isMeth then "hidMethDecl" else "hidFnDecl")
  | .par _ => if other.nameNode?.isSome && !isPar then rule "hidParDecl"
  | .variable data =>
   let ty := (<- Evals.tyForDecl primary).ty
   if data.hint.isSome && other.node.isName then
    let otherTy := (<- Evals.tyForDecl other).ty
    let isSame := (ty.bind (otherTy.map ·.isSame)) == true
    if !isSame && !isPar then rule "hidVarDecl"
  | .tyAlias _ => rule "hidTyAliasDecl"
  | _ => pure ()

def checkAliasRedeclared : Act := do
 let some idx := (<- decls.mapM isExplicitAlias).findIdx? id | return
 for (decl, other) in decls.zipIdx do if other != idx then flag .redeclaration "tyAliasAgain" decl.node [name]

/-! ### Symbols that are assigned once -/

def reportReassigned (decl : Decl) := blame "finalReset" (nameOf decl) [name]
def isFinalSym := return (<- declsOf sym).any isFinalDecl

def checkImportedFinal : Act := do
 if <- isFinalSym sym then return
 let ids := (<- symAt sym).decls.toList
 let isFinal id := do
  if (<- declAt id).asAlias?.isNone then return false
  return ((<- resolveAlias id true false).bind (·.decl)).any isFinalDecl
 let some final <- ids.findM? isFinal | return
 for id in ids do if id != final then reportReassigned name (<- declAt id)

def checkBuiltinFinal (scope : Scope) : Act := do
 if scope.kind != .mod then return
 let some parent := scope.parent | return
 let some shadowed := (<- get).scopes.lookUp? parent name | return
 if <- isFinalSym shadowed.sym then (<- declsOf sym).forM (reportReassigned name)

def isAssignedElsewhere (node : Node) := do
 let flags <- symFlags sym
 if !flags.clsMem || flags.clsVar then return false
 let some owner := (<- tree).enclCls? node true | pure false
 let some made <- Evals.tyOfCls owner | pure false
 if !made.decorated.isCls then return false
 return (<- isDataCls made.decorated) || (<- flagsOf made.decorated).proto

def checkFinal : Act := do
 let decls <- declsOf sym
 if !decls.any isFinalDecl then return
 let mut sawFinal := false
 let mut sawVal := false
 for decl in decls do
  if isFinalDecl decl then
   if sawFinal then blame "finalAgain" decl.node [name]
   sawFinal := true
  let some data := decl.asVar? | reportReassigned name decl
  if data.inferredSrc.isSome then
   if sawVal then
    if !(scope == .clsDef && ((<- tree).enclClsOrFn? decl.node).any (·.isFn)) then reportReassigned name decl
   sawVal := true
 if !sawVal then
  if let some first := decls.find? isFinalDecl then
   if !(<- inStub first.node) && !(<- isAssignedElsewhere sym first.node) then
    blame "finalUnassigned" first.node [name]

def checkFinalInLoop : Act := do
 if decls.any isFinalDecl then
  if let some first := decls.head? then if (<- tree).isInLoop first.node then blame "finalInLoop" first.node

/-! ### All symbols -/

def checkSym (scope : Scope) (name : String) (sym : SymId) : Act := do
 checkUnusedSym name sym scope.kind
 checkObscured name sym
 checkImportedFinal name sym
 checkBuiltinFinal name sym scope
 checkFinal name sym scope.kind
 let decls <- declsOf sym
 checkFinalInLoop decls
 checkAliasRedeclared name decls
 checkOvlSet name sym

def checkSyms (walked : Nodes) : Act := do
 for node in walked do
  if !node.isTyParList then
   if let some id <- scopeIdOf? node then
    let scope := (<- get).scopes.scope id
    for (name, sym) in scope.syms do checkSym scope name sym
 for node in walked do
  if let .tyParList pars := node.kind then
   if let some id <- scopeIdOf? node then
    let scope := (<- get).scopes.scope id
    for par in pars do
     if let .tyPar name .. := par.kind then
      if let some sym := scope.sym? name.nameVal then
       if !(<- get).accessed.contains sym then (<- declsOf sym).forM (checkUnusedDecl false)

end Check
end TypeChecker
