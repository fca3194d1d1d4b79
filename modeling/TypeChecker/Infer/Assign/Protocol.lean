import TypeChecker.Infer.Assign.Bind

/-! Protocols: a class or a module fits a protocol if it has all members of it, with types that fit. -/

namespace TypeChecker.Infer
open Match
def modField? (mod : Ty) (name : String) : Eval SymId? := do
 let scopes := (<- getThe World).scopes
 let .mod data := mod.form | pure none
 let own := data.scope.bind fun id => (scopes.scope id).sym? name
 let loaded := data.loaded.lookup name
 return if let some sym := own then
   let isSingle := (scopes.sym sym).decls.size == 1
   if isSingle && loaded.any fun id => !(scopes.sym id).flags.isHidden then loaded else own
  else loaded

variable [Evals]
def isFinalDecl (decl : Decl) := decl.asVar?.any (·.isFinal)

structure ProtoSrc where
 ty : Ty
 isClsObj : Bool
 self : Ty?
 selfSol : Sol
 flags : AssignFlags

structure SrcMem where
 mem : Option ClsMem := none
 sym : SymId
 ty : Ty
 isFromMcls := false

def protoConstrs (dest : Ty) : Match Constrs := do
 let u <- univ
 let outer <- constrs
 (u.tyPars dest).zipIdx.foldlM (fun (made : Constrs) (par, idx) => do
  match outer.bind (·.main.get? par), dest.tyArgs[idx]? with
  | some ent, _ => return made.setBounds ent
  | none, none => pure made
  | none, some arg =>
   let (arg, flags) <- match u.needsSpec arg, outer with
    | true, some outer => do pure (<- solve arg outer {} true, ({} : AssignFlags))
    | _, _ =>
     let variance := par.var.variance
     pure (arg, ({populateWant := true, invar := variance == .invar
                  contra := variance == .contra} : AssignFlags))
   if u.needsSpec arg then return made
   pure (<- constrained made (assignTyVar par arg flags)).2) {}

variable (source : ProtoSrc) (name : String) (dest src : Ty) (flags : AssignFlags) (depth : Nat)
def clsSrcMem? : Match (Option SrcMem) := do
 let u <- univ
 let ty := source.ty
 let fromMcls <- match source.isClsObj, (u.info ty).metaTy with
  | true, some mcls => if mcls.isClsObj then clsMem? mcls name else pure none
  | _, _ => pure none
 let isFromMcls := fromMcls.isSome
 let mem <- if let some mem := fromMcls then pure (some mem) else clsMem? ty name
 match mem with
 | none =>
  note "protoMemGone" [name]
  pure none
 | some mem =>
  let memTy <-
   if mem.clsTy.isClsObj then do
    let hit <- symTyOf mem
    if hit.isFn then inferReturns hit
    pure ((<- univ).partlySpec hit mem.clsTy (<- tyCls?) source.self)
   else pure .unk
  let res := {mem, sym := mem.sym, ty := memTy, isFromMcls}
  if !memTy.isRoutine || !(isFromMcls || mem.clsTy.isClsObj) then return some res
  let isField <- do
   isDataCls ty <&&> return ((<- infoOf ty).dataClsEnts.getD []).any (·.name == name)
  if !isFromMcls && (isField || !(<- symFlags mem.sym).clsMem) then return res
  let bound <- below <| bindMeth (if source.isClsObj && !isFromMcls then ty else ty.clsInst) memTy
   (if isFromMcls then none else mem.clsTy) false
   (if isFromMcls then ty else source.self) depth
  return bound.map ({res with ty := ·})

def srcMem? : Match (Option SrcMem) := do
 if source.ty.isCls then clsSrcMem? source name depth
 else if let some sym <- modField? source.ty name then return some {sym, ty := <- effTy sym}
  else
   note "protoMemGone" [name]
   pure none

def protoMemTy? (dest : Ty) (source : ProtoSrc) (mem : SrcMem)
  (sym : SymId) (ty : Ty) (depth : Nat) : Match (Option (Ty × Bool)) := do
 let ty := (<- univ).applySol ty source.selfSol
 if (<- symFlags sym).instMem || !ty.isRoutine then return (ty, false)
 let bound <- if let some hit := mem.mem then
   if mem.isFromMcls || hit.clsTy.isClsObj then
    bindMeth source.ty.clsInst ty
     (if mem.isFromMcls then none else hit.clsTy) false
     (if mem.isFromMcls then source.ty else source.self) depth
   else pure none
  else bindMeth dest.clsInst ty dest false none depth
 let u <- univ
 return bound.map fun bound => (u.bindFnVars bound, true)

def assignProtoMem (sup : Ty) (source : ProtoSrc) (mem : SrcMem) (name : String) (sym : SymId) (ty : Ty)
  (isReadOnly : Bool) (constrs : Constrs) (depth : Nat) : Match (Bool × Constrs × Bool) := do
 let u <- univ
 let given := mem.ty
 let isProp ty := ty.isObj && (u.flags ty).prop
 let flags :=
  {ovlOverlap := source.flags.ovlOverlap, partialOverlap := source.flags.partialOverlap
   retainLits := u.containsLit source.ty true}
 let within action := do
  let (fits, hit) <- withConstrs constrs action
  pure (fits, hit.getD constrs)
 if isProp ty then
  if isProp given && !source.isClsObj then
   let (fits, constrs) <- within <| below <| assignProp ty.clsObj given.clsObj sup source.ty source.selfSol depth
   if !fits then note "memTyBad" [name]
   return (fits, constrs, isReadOnly)
  let getter := (<- propTy? ty).map (u.partlySpec · sup (<- tyCls?))
  let (fits, constrs) <- if let some getter := getter then within (below (assign getter given flags depth))
   else pure (false, constrs)
  if !fits then note "memTyBad" [name]
  let hasSetter := (<- clsMem? ty "__set__" {skipInstMems := true}).isSome
  let hasDeleter := (<- clsMem? ty "__delete__" {skipInstMems := true}).isSome
  pure (fits, constrs, isReadOnly || (!hasSetter && !hasDeleter))
 else
  let isInvar := (<- declsOf sym).head?.any (·.asVar?.any (!·.isFinal))
  let (fits, hit) <- within <| below <| assign ty given {flags with invar := isInvar} depth
  if !fits then
   if isInvar then note "memIsInv" [name]
   note "memTyBad" [name]
  pure (fits, if fits then hit else constrs, isReadOnly)

def compareMemUse (mem : SrcMem) (name : String) (sym : SymId) : Fits := do
 let isVar decl := decl.asVar?.isSome
 let isDestClsVar := actsAsClsVar (<- symFlags sym) false
 let inDataCls <- pure source.ty.isCls <&&> isDataCls source.ty
 let isSrcClsVar := actsAsClsVar (<- symFlags mem.sym) inDataCls
 let isSrcVar := (<- declsOf mem.sym).any isVar
 let clsVarFits <-
  if source.isClsObj then
   if isDestClsVar then
    note "memIsClsVarInProto" [name]
    pure false
   else if isSrcVar && !isSrcClsVar && !mem.isFromMcls then
    note "memIsNotClsVarInCls" [name]
    pure false
   else pure true
  else if isDestClsVar != isSrcClsVar then do
   note (if isDestClsVar then "memIsClsVarInProto" else "memIsNotClsVarInProto") [name]
   pure false
  else pure true
 let lastVar sym := return (<- lastTypedDecl? sym).bind (·.asVar?)
 match <- lastVar sym, <- lastVar mem.sym with
 | some goal, some given =>
  let isSrcReadOnly := given.isConstant || mem.mem.any fun hit => hit.clsTy.isCls && hit.isReadOnly
  if !(goal.isConstant || goal.isFinal) && isSrcReadOnly then
   note "memIsRwInProto" [name]
   return false
  pure clsVarFits
 | _, _ => pure clsVarFits

def checkProtoMem (dest sup : Ty) (source : ProtoSrc) (name : String)
  (sym : SymId) (constrs : Constrs) (depth : Nat) : Match (Bool × Constrs) := do
 match <- declTy? sym with
 | none => pure (true, constrs)
 | some declared =>
  let some mem <- srcMem? source name depth | pure (false, constrs)
  let u <- univ
  let tyCls <- tyCls?
  let declared :=
   if source.ty.isCls && !sup.sameCls dest then u.partlySpec declared sup tyCls source.self
   else declared
  let some (ty, isMeth) <- protoMemTy? dest source mem sym declared depth | pure (false, constrs)
  below do
  let isFinal sym := return (<- typedDecls sym).any isFinalDecl
  let isSrcReadOnly := (<- isFinal mem.sym) || mem.mem.any (·.isReadOnly)
  let isDestReadOnly := isMeth || (<- isFinal sym)
  let (fits, constrs, nowReadOnly) <- assignProtoMem sup source mem name sym ty isDestReadOnly constrs depth
  let u <- univ
  let isOtherProp := ty.isObj && (u.flags ty).prop && !(mem.ty.isObj && (u.flags mem.ty).prop && !source.isClsObj)
  let isWritable := nowReadOnly || !isSrcReadOnly
  if isOtherProp && !isWritable then note "memIsRwInProto" [name]
  if !isWritable then note "memIsNotReadOnlyInProto" [name]
  pure (fits && isWritable && (<- compareMemUse source mem name sym), constrs)

def assignProtoArgs (dest : Ty) (hit : Constrs) (flags : AssignFlags) (depth : Nat) : Fits := do
 let u <- univ
 let isMany := decide (1 < hit.sets.length)
 hit.sets.foldlM (fun fits set => do
  let outer <- constrs
  let made := if isMany then hit.forSig set.scopeIds else hit
  let tgt := if isMany then outer.map (·.forSig set.scopeIds) else outer
  let specd <- solve (dest.spec none) made
  let (fits, tgt) <-
   if dest.tyArgs?.isSome then do
    let (argsFit, tgt) <- withConstrs tgt (assignTyArgs dest specd flags depth)
    pure (fits && argsFit, tgt)
   else pure (fits, tgt.map fun tgt => (u.tyPars dest).foldl (fun tgt par =>
    if let some ent := set.get? par then tgt.setBounds ent else tgt) tgt)
  if !isMany then setConstrs tgt
  else match outer, tgt with
   | some outer, some tgt => setConstrs (outer.withSets tgt.sets)
   | _, _ => pure ()
  pure fits) true

def protoSelf? :=
 if !src.isCls then none
 else if let some cond := src.conds.find? (·.tyVar.shared.isSelf) then
   let self := (src.setConds []).selfVar
   some (if cond.tyVar.free.isSome then self.asBound else self)
  else src

def assignToProto : Fits := do
 if flags.invar then return dest.isSame src
 Evals.inferVariance dest
 let u <- univ
 let constrs <- protoConstrs dest
 let self := protoSelf? src
 let selfSol := if let some self := self then Univ.addSelf {} dest self else {}
 let isClsObj := src.isCls && src.isInsta
 let src <-
  if src.isCls && (u.flags src).tdict then pure (((<- prefetched).tdictCls.filter (·.isClsObj)).getD src)
  else pure src
 let source := {ty := src, isClsObj, self, selfSol, flags}
 let (fits, hit, _) <- (u.mro dest).foldlM (fun (state : Bool × Constrs × Strings) sup => do
  if !sup.isClsObj || !(u.flags sup).proto then return state
  (<- fieldsOf sup).ents.toList.foldlM (fun (fits, constrs, checked) (name, sym) => do
   if !fits && !(<- isExplaining) then return (fits, constrs, checked)
   let symFlags <- symFlags sym
   if !symFlags.clsMem || symFlags.noProto || checked.contains name ||
     (!isClsObj && name == "__class_getitem__") || name == "__slots__" then
    return (fits, constrs, checked)
   let (memFits, constrs) <- checkProtoMem dest sup source name sym constrs depth
   pure (fits && memFits, constrs, name :: checked)) state) (true, constrs, [])
 if !fits || (u.tyPars dest).isEmpty then return fits
 assignProtoArgs dest hit flags depth

def maxProtoEnts := 64
def protoKey := (src.cls.ref.id, dest.cls.ref.id)

def protoEnt? (constrs : Constrs?) : Eval (Option ProtoEnt) := do
 let exact := {honorExplicitArgs := true, honorTyForm := true}
 let ents := (<- getThe World).protoCache.getD (protoKey dest src) []
 return ents.find? fun ent => ent.flags == flags && match ent.src with
  | none => ent.dest.sameCls dest
  | some source => ent.dest.isSame dest exact && source.isSame src exact && (match constrs, ent.preConstrs with
    | none, none => true
    | some lhs, some rhs => lhs.isSame rhs
    | _, _ => false)

def addProtoEnt (ent : ProtoEnt) (src : Ty) (depth : Nat) : Act := do
 let u <- univ
 let key := protoKey ent.dest src
 let ents := (<- getThe World).protoCache.getD key []
 let neverFits <-
  if !ent.isCompat && !ents.any fun other => other.flags == ent.flags && other.dest.sameCls ent.dest then do
   let general ty := if u.requiresTyArgs ty then u.selfSpec ty true else ty
   pure (!(<- plain (assignToProto (general ent.dest) (general src) ent.flags depth)))
  else pure false
 modify fun world =>
  let ents := world.protoCache.getD key []
  let ents := ents ++ [{ent with src := if neverFits then none else src}]
  let ents := if maxProtoEnts < ents.length then ents.drop 1 else ents
  {world with protoCache := world.protoCache.insert key ents}

def assignClsToProto : Fits := do
 let src <- if src.hasLit then stripLit src else pure src
 if (<- getThe World).protoStack.any fun (source, tgt) => source.isSame src && tgt.isSame dest then
  return !flags.invar
 let before <- constrs
 let known <- protoEnt? dest src flags before
 if let some ent := known then
  if ent.isCompat then
   match before, ent.postConstrs with
   | some _, some after => setConstrs after
   | _, _ => pure ()
   return true
  if !(<- isExplaining) || (Adden.dfltMaxDepth < (<- get).level) then return false
 modifyThe World fun s => {s with protoStack := s.protoStack ++ [(src, dest)]}
 let fits <- assignToProto dest src flags depth
 modifyThe World fun s => {s with protoStack := s.protoStack.dropLast}
 if known.isNone then
  addProtoEnt {src, dest, flags, preConstrs := before, postConstrs := <- constrs, isCompat := fits} src depth
 pure fits

def isMethOnlyIn : Nat -> Ty -> Ask
 | 0, _ => pure true
 | fuel + 1, ty => do
  let u <- univ
  if !(u.flags ty).proto then return false
  let basesFit <- (u.info ty).bases.allM fun base =>
   pure !(base.isCls && (u.flags base).proto) <||> isMethOnlyIn fuel base
  if !basesFit then return false
  (<- fieldsOf ty).ents.toList.allM fun (_, sym) => do
   if (<- symFlags sym).noProto then return true
   return (<- declsOf sym).all (·.asFn?.isSome)

def isMethOnlyProto (ty : Ty) := isMethOnlyIn 64 ty

def isUnsafeOverlap (proto ty : Ty) : Ask := do
 if <- canAssign proto ty then return false
 let u <- univ
 (u.mro proto).allM fun sup => do
  if !sup.isClsObj || !(u.flags sup).proto then return true
  (<- fieldsOf sup).ents.toList.allM fun (name, sym) => do
   let flags <- symFlags sym
   if !flags.clsMem || flags.noProto then return true
   pure (<- clsMem? ty name).isSome

end TypeChecker.Infer
