import TypeChecker.Tree.Enclosing

/-! Symbols and scopes. A symbol is a name of a scope; each place that gives the name a meaning is a declaration of
the symbol. Names are looked up from the inside to the outside. -/

namespace TypeChecker

abbrev ScopeId := Nat
abbrev ScopeId? := Option ScopeId
abbrev SymId := Nat
abbrev SymId? := Option SymId
abbrev DeclId := Nat

/-! Where a declaration leads. -/

inductive ModUri where
 | none
 | lost
 | file (path : String)
 deriving DecidableEq

namespace ModUri

def ofPath (path : String) : ModUri := if path.isEmpty then .none else .file path

def isEmpty : ModUri -> Bool
 | .none => true
 | _ => false

def path? : ModUri -> String?
 | .file path => path
 | _ => Option.none

end ModUri

inductive LoadPlan where
 | mk (uri : ModUri) (load : Bool) (isLost : Bool?) (implicit : List (String × LoadPlan))

namespace LoadPlan

instance : Inhabited LoadPlan := ⟨.mk .none false none []⟩

def uri : LoadPlan -> ModUri
 | .mk uri _ _ _ => uri

def load : LoadPlan -> Bool
 | .mk _ load _ _ => load

def isLost : LoadPlan -> Bool?
 | .mk _ _ isLost _ => isLost

def implicit : LoadPlan -> ByName LoadPlan
 | .mk _ _ _ implicit => implicit

end LoadPlan

structure AliasFacts where
 usesLocalName := false
 load : Bool
 (symName firstNamePart : String? := none)
 implicit : ByName LoadPlan := []
 (isLost isNative : Bool := false)

structure VarFacts where
 (hint inferredSrc : Node? := none)
 (isConstant isFinal isDefinedBySlots isInferredInTypedPkg : Bool := false)
 tyAliasName : Node? := none
 isMemDefined := false
 docStr : Text? := none
 isDeclaring := false
 isRuntimeHint := false

structure FnFacts where
 isMeth : Bool
 isGen := false
 (returns yields raises : Array Node := #[])

inductive DeclKind where
 | intrinsic (ty : String)
 | variable (facts : VarFacts)
 | par (hasTy : Bool)
 | tyPar
 | tyAlias (docStr : Text?)
 | fn (facts : FnFacts)
 | clsDef
 | specialCls
 | importAlias (facts : AliasFacts) (fallback : Option (ModUri × AliasFacts × String))

structure Decl where
 kind : DeclKind
 node : Node
 uri : ModUri
 range : LineRange
 modName : String
 inExcept : Bool

namespace Decl

instance : Inhabited Decl := ⟨⟨.clsDef, default, .none, default, "", false⟩⟩

def hasTy (decl : Decl) :=
 match decl.kind with
 | .par hasTy => hasTy
 | .variable facts => facts.hint.isSome
 | .importAlias .. => false
 | _ => true

variable (decl : Decl)
def asVar? : Option VarFacts := if let .variable facts := decl.kind then facts else none
def asFn? : Option FnFacts := if let .fn facts := decl.kind then facts else none
def asAlias? : Option AliasFacts := if let .importAlias facts _ := decl.kind then facts else none
def isMemDefined := decl.asVar?.any (·.isMemDefined)

def sameKind (lhs rhs : Decl) :=
 match lhs.kind, rhs.kind with
 | .intrinsic _, .intrinsic _ | .variable _, .variable _ | .par _, .par _
 | .tyPar, .tyPar | .tyAlias _, .tyAlias _ | .fn _, .fn _
 | .clsDef, .clsDef | .specialCls, .specialCls | .importAlias .., .importAlias .. => true
 | _, _ => false

def isSameAs (lhs rhs : Decl) :=
 lhs.sameKind rhs && lhs.uri == rhs.uri && lhs.range.start == rhs.range.start &&
  match lhs.asAlias?, rhs.asAlias? with
  | some lhsFacts, some rhsFacts =>
   lhsFacts.symName == rhsFacts.symName && lhsFacts.usesLocalName == rhsFacts.usesLocalName && lhs.node == rhs.node
  | _, _ => true

def name? :=
 match decl.kind, decl.node.kind with
 | .importAlias facts _, _ => facts.symName
 | .clsDef, .clsDef parts | .fn _, .fnDef parts => parts.name.nameVal
 | .tyPar, .tyPar name _ _ _ | .tyAlias _, .tyAlias _ name _ _ => name.nameVal
 | .par _, .par parts => parts.name.map Node.nameVal
 | .variable _, .name val _ => val
 | .specialCls, .annot val _ | .intrinsic _, .annot val _ => val.nameVal?
 | _, _ => none

end Decl

/-! Symbols. -/

def setEnt {α : Type} (ents : ByName α) (name : String) (val : α) :=
 if ents.any (·.1 == name) then ents.map fun ent => if ent.1 == name then (name, val) else ent
 else ents ++ [(name, val)]

structure SymFlags where
 (startsUnbound isHidden clsMem instMem slotsMem privMem : Bool := false)
 (noProto clsVar inDunderAll privTypedImport initVar namedTupMem : Bool := false)
 (noOverrideCheck finalVarInClsBody : Bool := false)
 deriving Inhabited

def SymFlags.toNat (flags : SymFlags) :=
 [flags.startsUnbound, flags.isHidden, flags.clsMem, flags.instMem,
  flags.slotsMem, flags.privMem, flags.noProto, flags.clsVar,
  flags.inDunderAll, flags.privTypedImport, flags.initVar, flags.namedTupMem,
  flags.noOverrideCheck, flags.finalVarInClsBody].foldr (fun flag total => flag.toNat + 2 * total) 0

structure Sym where
 flags : SymFlags
 decls : Array DeclId := #[]
 typingAlias : String? := none
 deriving Inhabited

inductive ScopeKind where
 | tyPar | compr | fn | clsDef | mod | builtin
 deriving DecidableEq, Inhabited

def ScopeKind.name : ScopeKind -> String
 | .tyPar => "TypeParameter" | .compr => "Comprehension"
 | .fn => "Function" | .clsDef => "Class" | .mod => "Module" | .builtin => "Builtin"

inductive NameBinding where
 | nonlocalName | globalName
 deriving DecidableEq

def NameBinding.name : NameBinding -> String
 | .nonlocalName => "Nonlocal" | .globalName => "Global"

structure Scope where
 kind : ScopeKind
 (parent proxy : ScopeId? := none)
 syms : Array (String × SymId) := #[]
 idx : Std.HashMap String SymId := {}
 bindings : ByName NameBinding := []
 slots : Option Strings := none
 deriving Inhabited

namespace Scope
variable (scope : Scope) (name : String)
def sym? := scope.idx[name]?
def binding? := (scope.bindings.find? (·.1 == name)).map (·.2)
def addSym (sym : SymId) := {scope with syms := scope.syms.push (name, sym), idx := scope.idx.insert name sym}

def setBinding (binding : NameBinding) :=
 {scope with bindings := (name, binding) :: scope.bindings.filter (·.1 != name)}

def isGlobal := scope.kind matches .mod | .builtin
def runsApart := scope.kind matches .mod | .fn

end Scope

structure ScopeTables where
 scopes : Array Scope := #[]
 syms : Array Sym := #[]
 decls : Array Decl := #[]
 deriving Inhabited

structure ScopeWorld where
 blocks : Array ScopeTables := #[]

namespace ScopeWorld
variable (world : ScopeWorld)
def tablesOf (id : Nat) := world.blocks.getD (Anc.blockOf id) default
def idxOf (id : Nat) := id % Anc.blockSize
def scope (id : ScopeId) := (world.tablesOf id).scopes.getD (idxOf id) default

variable (old new : Decl) (id : SymId) (block : Nat)
def sym := (world.tablesOf id).syms.getD (idxOf id) default
def decl (id : DeclId) := (world.tablesOf id).decls.getD (idxOf id) default
def declsOf := (world.sym id).decls.map world.decl
def declared := world.blocks.toList.flatMap (·.syms.toList.flatMap (·.decls.toList))

@[inline] def modifyTables (change : ScopeTables -> ScopeTables) :=
 {world with blocks := world.blocks.modify block change}

def modifyScope (id : ScopeId) (change : Scope -> Scope) :=
 world.modifyTables (Anc.blockOf id) fun tables => {tables with scopes := tables.scopes.modify (idxOf id) change}

def modifySym (change : Sym -> Sym) :=
 world.modifyTables (Anc.blockOf id) fun tables => {tables with syms := tables.syms.modify (idxOf id) change}

def modifyDecl (id : DeclId) (change : Decl -> Decl) :=
 world.modifyTables (Anc.blockOf id) fun tables => {tables with decls := tables.decls.modify (idxOf id) change}

def reserve : ScopeWorld :=
 let blocks :=
  if world.blocks.size <= block then world.blocks ++ Array.replicate (block + 1 - world.blocks.size) default
  else world.blocks
 {blocks := blocks.setIfInBounds block {}}

def addScope (scope : Scope) :=
 (Anc.firstId block + (world.blocks.getD block default).scopes.size,
  world.modifyTables block fun tables => {tables with scopes := tables.scopes.push scope})

def addSym (scope : ScopeId) (name : String) (flags : SymFlags) : SymId × ScopeWorld :=
 let block := Anc.blockOf scope
 let id := Anc.firstId block + (world.blocks.getD block default).syms.size
 (id, world.modifyTables block fun tables =>
  {tables with syms := tables.syms.push {flags}, scopes := tables.scopes.modify (idxOf scope) (·.addSym name id)})

def addDecl (decl : Decl) : DeclId × ScopeWorld :=
 (Anc.firstId block + (world.blocks.getD block default).decls.size,
  world.modifyTables block fun tables => {tables with decls := tables.decls.push decl})

/-! Declaring. -/

def withoutAliasName (decl : Decl) :=
 if let .variable facts := decl.kind then {decl with kind := .variable {facts with tyAliasName := none}} else decl

def replacing :=
 match old.kind, new.kind with
 | .variable oldFacts, .variable newFacts =>
  let src := newFacts.inferredSrc <|> oldFacts.inferredSrc
  {new with kind := .variable {newFacts with inferredSrc := src}}
 | _, _ => new

def merging :=
 match old.kind, new.kind with
 | .variable oldFacts, .variable newFacts =>
  let facts := {oldFacts with
   isFinal := oldFacts.isFinal || newFacts.isFinal
   tyAliasName := newFacts.tyAliasName
   inferredSrc := oldFacts.inferredSrc <|> newFacts.inferredSrc}
  {old with kind := .variable facts}
 | _, _ => old

def declare (sym : SymId) (id : DeclId) :=
 let new := world.decl id
 let known := (world.sym sym).decls
 if let some idx := known.findIdx? fun old => (world.decl old).isSameAs new then
  let oldId := known.getD idx 0
  let old := world.decl oldId
  if new.hasTy then
   let world := world.modifySym sym fun hit => {hit with decls := hit.decls.setIfInBounds idx id}
   world.modifyDecl id (replacing old ·)
  else world.modifyDecl oldId (merging · new)
 else
  let world := world.modifySym sym fun hit => {hit with decls := hit.decls.push id}
  if known.isEmpty then world else (known.push id).foldl (fun world id => world.modifyDecl id withoutAliasName) world

end ScopeWorld

/-! Looking up. -/

structure LookUpPath where
 (outsideMod pastExec usesNonlocal usesGlobal : Bool := false)

structure HitSym where
 sym : SymId
 scope : ScopeId
 path : LookUpPath

namespace ScopeWorld

def maxDepth := 100000

def globalIn (world : ScopeWorld) : Nat -> Bool -> ScopeId -> Option (ScopeId × Bool)
 | 0, _, _ => none
 | fuel + 1, beyond, id =>
  let scope := world.scope id
  if scope.isGlobal then (id, beyond)
  else scope.parent.bind (globalIn world fuel (beyond || scope.kind == .fn))

variable (world : ScopeWorld) (id : ScopeId)
def globalScope? := world.globalIn maxDepth false id

def isNameable (id : SymId) :=
 let decls := (world.sym id).decls
 decls.isEmpty || decls.any fun decl => !(world.decl decl).isMemDefined

def own? (useProxy : Bool) (id : ScopeId) (name : String) : Option (SymId × ScopeId) :=
 let scope := world.scope id
 if let some sym := scope.sym? name then (sym, id)
 else if useProxy then scope.proxy.bind fun proxy => ((world.scope proxy).sym? name).map (·, proxy) else none

def next? (name : String) (path : LookUpPath) : Option (ScopeId × LookUpPath) :=
 let scope := world.scope id
 let binding := scope.binding? name
 let beyond := path.pastExec || scope.runsApart
 let (parent, beyond) : ScopeId? × Bool :=
  if binding == some .globalName then
   if let some (tgt, viaFn) := world.globalScope? id then
    if tgt == id then (none, beyond) else (tgt, beyond || viaFn)
   else (none, beyond)
  else (scope.parent, beyond)
 parent.map fun parent => (parent,
  {outsideMod := path.outsideMod || scope.kind == .mod, pastExec := beyond
   usesNonlocal := path.usesNonlocal || binding == some .nonlocalName
   usesGlobal := path.usesGlobal || binding == some .globalName})

def lookUpIn (name : String) : Nat -> Bool -> LookUpPath -> ScopeId -> Option HitSym
 | 0, _, _, _ => none
 | fuel + 1, useProxy, path, id =>
  let goOn := (world.next? id name path).bind fun (parent, path) => lookUpIn name fuel false path parent
  if let some (sym, scope) := world.own? useProxy id name then
   if path.outsideMod && (world.sym sym).flags.isHidden then none
   else if world.isNameable sym then some {sym, scope, path}
   else goOn
  else goOn

def lookUp? (name : String) (useProxy : Bool := false) : Option HitSym := world.lookUpIn name maxDepth useProxy {} id

end ScopeWorld
end TypeChecker
