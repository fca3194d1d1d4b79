import TypeChecker.Infer.Member

/-! The built-in classes, and types made of them: literals, tuples, and what a type variable stands for where
nothing more is known about it. -/

namespace TypeChecker

def Ty.dropPromotions (ty : Ty) := ty.withCls ({· with includePromotions := false})

namespace Infer
variable [Evals]

/-! Names of other modules. -/

def modSym? (path name : String) := do
 if let some block <- Evals.loadMod path then
  let world <- get
  return ((world.mods[block]?).join).bind fun bound => (world.scopes.scope bound.scope).sym? name
 else pure none

variable (node : Node) (name : String)
def modNameTy? (parts : Strings) := do
 if let some path <- Evals.resolveMod node parts then
  (<- modSym? path name).mapM effTy
 else pure none

def typingTy? := do
 if let some ty <- modNameTy? node name ["typing"] then return some ty else modNameTy? node name ["typing_extensions"]

def tysTy? := modNameTy? node name ["types"]
def typeshedTy? := modNameTy? node name ["_typeshed"]
def internalsTy? := modNameTy? node name ["_typeshed", "_type_checker_internals"]

def builtinScopeIn (world : ScopeWorld) : Nat -> ScopeId -> ScopeId?
 | 0, _ => none
 | fuel + 1, id =>
  let scope := world.scope id
  if scope.kind == .builtin then id else scope.parent.bind (builtinScopeIn world fuel)

def builtinTy := do
 let scope <- scopeOf? node
 let world <- get
 match (scope.bind (builtinScopeIn world.scopes ScopeWorld.maxDepth)).bind fun id =>
   (world.scopes.scope id).sym? name with
 | some sym => effTy sym
 | none => pure .unk

def builtinObj (tyArgs : Option Tys := none) : Eval Ty := do
 let ty <- builtinTy node name
 if ty.isClsObj then return (if let some args := tyArgs then ty.spec args else ty).clsInst
 else pure ty

def litObj (val : Lit Ty) := do
 let ty <- builtinObj node name
 return if ty.isObj then ty.dropPromotions.setLit val else .unk

/-! Classes that are known from the start. -/

def prefetched : Eval Early := return (<- get).prefetched.getD {}

variable (ty : Ty)
def computeMro : Ask := do
 let (mro, isValid) := Linearization.compute (<- univ) ty
 changeCls ty ({· with mro})
 pure isValid

def prefetch : Act := do
 if (<- get).prefetched.isSome then return
 let set change := modify fun s => {s with prefetched := some (change (s.prefetched.getD {}))}
 set id
 let objCls <- builtinTy node "object"
 set ({· with objCls := objCls})
 let tyCls <- builtinTy node "type"
 set ({· with tyCls := tyCls})
 let fnCls <- if let some ty <- tysTy? node "FunctionType" then pure ty else builtinTy node "function"
 set ({· with fnCls := fnCls})
 let methCls <- tysTy? node "MethodType"
 set ({· with methCls})
 let unionTyCls <- tysTy? node "UnionType"
 if let some ty := unionTyCls then if ty.isCls then changeFlags ty ({· with specForm := true})
 set ({· with unionTyCls})
 discard (typingTy? node "Collection")
 let noneTyCls <- typeshedTy? node "NoneType"
 set ({· with noneTyCls := noneTyCls.getD .unk})
 let tupCls <- builtinTy node "tuple"
 set ({· with tupCls := tupCls})
 let boolCls <- builtinTy node "bool"
 set ({· with boolCls := boolCls})
 let intCls <- builtinTy node "int"
 set ({· with intCls := intCls})
 let strCls <- builtinTy node "str"
 set ({· with strCls := strCls})
 let dictCls <- builtinTy node "dict"
 set ({· with dictCls := dictCls})
 let modTyCls <- typingTy? node "ModuleType"
 set ({· with modTyCls})
 let tdictCls <- typingTy? node "TypedDict"
 set ({· with tdictCls})
 let fallback <- internalsTy? node "TypedDictFallback"
 let tdictPrivCls <- if let some ty := fallback then pure (some ty) else typingTy? node "_TypedDict"
 set ({· with tdictPrivCls})
 let awaitableCls <- typingTy? node "Awaitable"
 set ({· with awaitableCls})
 let mappingCls <- typingTy? node "Mapping"
 set ({· with mappingCls})
 let tmplCls <- modNameTy? node "Template" ["string", "templatelib"]
 set ({· with tmplCls})
 let supportsKeys <- typeshedTy? node "SupportsKeysAndGetItem"
 set ({· with supportsKeysAndGetItem := supportsKeys <|> mappingCls})
 if let some anyCls := Ty.anyForm.special? then
  changeCls anyCls ({· with bases := [objCls], metaTy := tyCls})
  discard (computeMro anyCls)

variable (choose : Early -> Ty?)
def clsOf? : Eval Ty? := return (choose (<- prefetched)).filter Ty.isClsObj
def tupCls? := clsOf? (·.tupCls)
def objTy : Eval Ty := return ((<- prefetched).objCls).elim .unk (·.toInst)
def noneTy : Eval Ty := return ((<- prefetched).noneTyCls).elim .unk (·.toInst)
def instOf : Eval Ty := return (<- clsOf? choose).elim .unk (·.clsInst)

def tupObj (args : List TyTupArg) (isUnp : Bool := false) : Eval Ty :=
 return ((<- tupCls?).map fun tup => (tup.specTup args true isUnp).toInst).getD .unk

def anyTup (isUnp : Bool := false) : Eval Ty := do tupObj [{ty := <- objTy, isUnb := true}] isUnp

def strDict (val : Ty) : Eval Ty := do
 match <- clsOf? (·.dictCls), <- clsOf? (·.strCls) with
 | some dict, some str => pure (dict.spec [str.toInst, val]).clsInst
 | _, _ => pure .unk

/-! Literals. -/

def stripLit : Eval Ty := do
 let str <- clsOf? (·.strCls)
 let strip mem :=
  if !mem.isCls then some mem
  else
   let bare := if mem.hasLit then mem.setLit none else mem
   if bare.isNamed "LiteralString" then
    if let some str := str then some (str.clsInst.setConds bare.ownConds) else some bare
   else some bare
 if let .union (first :: _) _ _ := ty.form then
  if let some (key :: keys) := ty.subtys.mapM Ty.litKey? then
   if keys.all key.sameKind && ty.subtys.all (·.isInst) then return (strip first).getD first
 return ty.map strip

def stripTyGuard : Eval Ty := do
 let bool := (<- prefetched).boolCls
 return ty.map fun mem =>
  if mem.isObjIn ["TypeGuard", "TypeIs"] then some (bool.elim .unk (·.toInst)) else some mem

/-! Concrete types. -/

def firmVar (mem : Ty) (filter : Option (List (Cond Ty))) (obj : Ty) (u : Univ) :=
 let data := mem.var
 let shared := data.shared
 if shared.recAlias.isSome then mem
 else if !shared.constrs.isEmpty then
  let applicable := (filter.getD []).find? (·.tyVar.scopedName == some data.key)
  .combine (shared.constrs.zipIdx.filterMap fun (constr, idx) =>
   if applicable.any (·.idx != idx) then none
   else
    some ((if mem.isInsta then constr.toInsta else constr).addConds [{tyVar := data, idx}]))
 else if shared.isExemptFromBoundCheck then .any
 else
  let bound := shared.bound.getD obj
  let bound := if shared.isSelf && bound.isCls && !bound.isPseudo then
   u.selfSpec bound false mem.isBoundVar else bound
  let bound := if data.isUnp && bound.isCls then bound.unpack else bound
  (if mem.isInsta then bound.toInsta else bound).addConds [{tyVar := data, idx := 0}]

def firmMem (filter : Option (List (Cond Ty))) (mem : Ty) : Eval Ty? := do
 match mem.form with
 | .tyVar data =>
  match mem.isSigVar, data.access with
  | true, some .args => return <- anyTup
  | true, some .kwargs => return <- strDict (<- objTy)
  | _, _ => pure ()
  if mem.isTupVar then
   if data.isInUnion then if mem.isInsta then return some ((<- clsOf? (·.tyCls)).getD .any) else return <- objTy
   return <- anyTup true
  return firmVar mem filter (<- objTy) (<- univ)
 | _ => pure mem

def firm (filter : Option (List (Cond Ty)) := none) : Eval Ty := do
 if ty.subtys.all (!·.isTyVar) then return ty
 ((<- univ).unrollAlias ty).mapM (firmMem filter)

structure ExpandOpts where
 filter : Option (List (Cond Ty)) := none
 sort := false
 expand : Option (Ty -> Eval Ty) := none

def filterByConds (conds : List (Cond Ty)) : Nat -> Ty -> Eval Ty?
 | 0, ty => pure ty
 | fuel + 1, ty => do
  if !Cond.areCompat ty.ownConds conds then return none
  match ty.isCls, ty.tyArgs?, ty.tupArgs? with
  | true, some args, none =>
   Evals.inferVariance ty
   let pars := (<- univ).tyPars ty
   let filtered <- args.zipIdx.mapM fun (arg, idx) => do
    match pars[idx]? with
    | none => pure arg
    | some par =>
     if par.var.variance != .covar || arg.shared.recAlias.isSome then return arg
     let expanded <- (if arg.isUnion then arg.subtys else [arg]).mapM fun mem => do
      let whole <- if mem.isUnion then pure mem else firm mem
      let whole := (<- univ).unrollAlias whole
      pure (mem, <- whole.subtys.filterMapM (filterByConds conds fuel))
     let isSame := expanded.all fun (mem, kept) => if let [only] := kept then only.isIdentical mem else false
     if isSame then pure arg else return .combine (expanded.flatMap (·.2))
   if (args.zip filtered).all fun (old, new) => old.isIdentical new then pure ty
   else return ty.spec filtered
  | _, _, _ => pure ty

def mapExpanded {m : Type -> Type} [Monad m] [MonadLiftT Eval m] (ty : Ty) (change : Ty -> Ty -> Bool -> m Ty?)
  (opts : ExpandOpts := {}) (depth : Nat := 0) : m Ty := do
 let u <- univ
 let mems := if opts.sort && ty.isUnion then u.sortTys ty.subtys else ty.subtys
 let mut news := []
 let mut isChanged := false
 for (mem, idx) in mems.zipIdx do
  let isLastMem := idx + 1 == mems.length
  let expanded <- (do
   let expanded <- if mem.isUnion then pure mem else firm mem
   let expanded := (<- univ).unrollAlias expanded
   if let some expand := opts.expand then expand expanded else pure expanded)
  let parts := if opts.sort then u.sortTys expanded.subtys else expanded.subtys
  for (part, at') in parts.zipIdx do
   let kept <- if let some filter := opts.filter then (filterByConds filter (maxTyDepth + 1 - depth) part)
    else pure part
   match kept with
   | none => pure ()
   | some part =>
    let res <- change part mem (isLastMem && at' + 1 == parts.length)
    if !(res.any (·.isIdentical mem)) then isChanged := true
    match res with
    | none => pure ()
    | some res =>
     let conds := part.ownConds.filter (!·.tyVar.shared.constrs.isEmpty)
     let res := if conds.isEmpty then res else res.addConds conds
     if !(news.head?.any (res.isSame ·)) then news := res :: news
 return if !isChanged then ty else (Ty.combine news.reverse).addAliasSrc ty

/-! Promotions. -/

def promotions := [
 ("builtins.float", ["int"]), ("builtins.complex", ["float", "int"]),
 ("builtins.bytes", ["bytearray", "memoryview"])]

def expandPromotions :=
 ty.mapM fun mem => do
  if !mem.isCls || !mem.cls.includePromotions || mem.hasLit then return mem
  let added <- ((promotions.lookup mem.clsFullName).getD []).filterMapM fun name => do
   let promoted <- builtinTy node name
   if !promoted.isClsObj then return none
   let promoted := promoted.dropPromotions
   return (if mem.isObj then promoted.clsInst else promoted).addConds mem.conds
  return some (.combine (mem.dropPromotions :: added))

end Infer
end TypeChecker
