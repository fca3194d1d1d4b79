import TypeChecker.Types.Union

/-! What is known about declared classes and type aliases. -/

namespace TypeChecker

/-- Symbols by name, in the order in which they were added. -/
structure SymTable where
 ents : Array (String × SymId) := #[]
 idx : Std.HashMap String SymId := {}

namespace SymTable

def ofScope (scope : Scope) : SymTable := {ents := scope.syms, idx := scope.idx}

variable (table : SymTable) (name : String)
def get? := table.idx[name]?
def contains := table.idx.contains name

def set (sym : SymId) : SymTable :=
 if table.idx.contains name then
  {ents := table.ents.map fun ent => if ent.1 == name then (name, sym) else ent
   idx := table.idx.insert name sym}
 else {ents := table.ents.push (name, sym), idx := table.idx.insert name sym}

end SymTable

structure ClsFlags where
 (builtIn specBuiltIn tdict tdictClosed isClosedDict : Bool := false)
 (canOmitDictVals hasAbs prop final proto runtimeCheckable : Bool := false)
 (typingExt unfinished customClsGetItem tup enum clsProp definedInStub : Bool := false)
 (tyCheckOnly newTy validTyAlias specForm illegalInst : Bool := false)

structure DataClsEnt where
 name : String
 clsTy : Ty
 mroCls : Ty? := none
 (isClsVar isKwOnly : Bool := false)
 initAlias : String? := none
 (hasDflt isDfltFactory : Bool := false)
 (nameNode hintNode dfltExpr : Node? := none)
 includeInInit := true
 ty : Ty := .unk
 conv : Node? := none

structure TdictEnts where
 known : ByName (TdictEnt Ty) := []
 extra : Option (TdictEnt Ty) := none

/-- Work on a class that is put off until its members are looked at. -/
structure DeferredSynthesis where
 node : Node
 (skipInit hasExistingInit skipHash : Bool)

structure ClsInfo where
 flags : ClsFlags := {}
 uri : ModUri := .none
 (bases mro : Tys := [])
 decl : Option DeclId := none
 (declMcls metaTy : Ty? := none)
 fields : SymTable := {}
 tyPars : Tys := []
 dataClsEnts : Option (List DataClsEnt) := none
 dataClsBehav : Option DataClsBehav := none
 namedTupEnts : Option Strings := none
 typedEnts : Option TdictEnts := none
 tdictExtraItems : Node? := none
 localSlots : Option Strings := none
 depr : String? := none
 dataClsMorph : Option DataClsBehav := none
 infersVariance := false
 isInstHashable : Bool? := none
 synthesis : Option DeferredSynthesis := none
 deriving Inhabited

structure AliasInfo where
 tyPars : Option Tys := none
 variances : Option (List Variance) := none
 /-- The type that an alias stands for, once it is known. -/
 bound : Ty? := none
 deriving Inhabited

/-- What is known about all classes and aliases. The first class is the one that stands for any type. -/
structure Univ where
 classes : Array ClsInfo := #[{flags := {builtIn := true, specForm := true, illegalInst := true}}]
 aliases : Array AliasInfo := #[]
 returns : Std.HashMap DeclId Ty := {}

namespace Univ
variable (u : Univ)
def clsAt (id : Nat) := u.classes.getD id default

variable (ty : Ty)
def info := if let .cls data := ty.form then u.clsAt data.ref.id else default
def flags := (u.info ty).flags
def mro := (u.info ty).mro
def tyPars := (u.info ty).tyPars
def aliasAt (id : Nat) := u.aliases.getD id default
def isSpec := (u.flags ty).specBuiltIn || ty.cls.aliasName.isSome
def isTupCls := (u.flags ty).tup

variable (name : String) (data : FnData) (honorBounds : Bool) (sub parent : Ty)
def effRet? (includeInferred : Bool := true) : Ty? :=
 data.statedRet? <|>
  (if includeInferred then data.inferredRet <|> data.decl.bind (u.returns[·]?)
  else none)

def inferredRet? := data.inferredRet <|> data.decl.bind (u.returns[·]?)
def aliasBound? := if let some shared := ty.shared.recAlias then (u.aliasAt shared.id).bound else ty.shared.bound
def isHole := ty.isTyVar && ty.shared.recAlias.any fun shared => (u.aliasAt shared.id).bound.isNone
def isUnspecialized := !(u.tyPars ty).isEmpty && ty.tyArgs?.isNone
def derivesFromAny := (u.mro ty).any Ty.isAnyLike
def derivesFromBuiltIn := (u.mro ty).any (·.isNamed name)
def isMclsInst := ty.isObj && u.derivesFromBuiltIn ty "type"
def isInstaMcls := ty.isClsObj && u.derivesFromBuiltIn ty "type"
def isProp := ty.isObj && (u.flags ty).prop

def isHierarchyPartial := (u.flags ty).unfinished || (u.mro ty).any fun mem => mem.isCls && (u.flags mem).unfinished

/-- Whether a type stands for class objects, also through a metaclass. -/
def isInstaIn : Nat -> Ty -> Bool
 | 0, _ => false
 | fuel + 1, ty =>
  ty.isInsta || (honorBounds && ty.isTyVar && (u.aliasBound? ty).any (isInstaIn fuel)) || u.isMclsInst ty ||
   (ty.isUnion && ty.subtys.all (isInstaIn fuel))

def actsAsInsta (honorBounds : Bool := false) := u.isInstaIn honorBounds (maxTyDepth + 1) ty

/-- The classes from the given one up to an ancestor, from the ancestor down. -/
def inherChainIn : Nat -> Ty -> Ty -> Option Tys
 | 0, _, _ => none
 | fuel + 1, sub, parent =>
  if sub.sameCls parent then
   if parent.hasLit && !(sub.hasLit && parent.sameLit sub) then none else [sub]
  else if sub.isBuiltIn [] && parent.isNamed "object" then [parent]
  else if 0 < sub.depth && parent.isNamed "type" && parent.depth < sub.depth then [parent]
  else if sub.isNamed "property" && parent.isNamed "property" then [sub]
  else (u.info sub).bases.findSome? fun base =>
   if base.isClsObj then (inherChainIn fuel base parent).map (· ++ [sub])
   else if base.isAnyLike then [Ty.unk]
   else none

def inherChain? := u.inherChainIn 256 sub parent
def isDerivedFrom := (u.inherChain? sub parent).isSome

def derivesFromClsIn (ignoreUnk : Bool) : Nat -> Ty -> Ty -> Bool
 | 0, _, _ => false
 | fuel + 1, sub, parent =>
  sub.sameCls parent || (u.info sub).bases.any fun base =>
   if base.isClsObj then derivesFromClsIn ignoreUnk fuel base parent else !ignoreUnk && base.isAnyLike

def derivesFromCls (ignoreUnk : Bool := true) := u.derivesFromClsIn ignoreUnk 256 sub parent

def isMemReadOnly :=
 let info := u.info ty
 (info.namedTupEnts.any (·.contains name)) ||
  ((info.dataClsBehav.any (·.frozen)) && (info.dataClsEnts.getD []).any (·.name == name))

def slotsIn : Nat -> Ty -> Option Strings
 | 0, _ => none
 | fuel + 1, ty => do
  let info := u.info ty
  let own <- info.localSlots
  let inher <- (info.bases.filter (!·.isBuiltIn ["object", "type", "Generic"])).mapM fun base =>
   if base.isClsObj then slotsIn fuel base else none
  return own ++ inher.flatten

def slots? := u.slotsIn 256 ty

end Univ
end TypeChecker
