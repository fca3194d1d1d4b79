import TypeChecker.Infer.Context

/-! Looking up members of classes along the order of their ancestors. -/

namespace TypeChecker.Infer
variable [Evals] (ty : Ty)
def fieldsOf : Eval SymTable := do
 if (<- infoOf ty).synthesis.isSome then Evals.synthesizeCls ty
 pure (<- infoOf ty).fields

def isDataCls := return (<- infoOf ty).dataClsBehav.isSome
def actsAsClsVar (flags : SymFlags) (inDataCls : Bool) := flags.clsVar || (flags.finalVarInClsBody && !inDataCls)
def unkMem : ClsMem := {made := ty, clsTy := ty, unspecCls := ty}

def ancestorsFrom (u : Univ) (ty : Ty) (skip : Ty?) : Tys :=
 if let some skip := skip then
  match (u.mro ty).dropWhile fun sup => sup.isCls && !sup.sameCls skip with
  | [] => []
  | first :: rest => if first.isCls then rest else first :: rest
 else u.mro ty

variable (mem : ClsMem) (clsTy : Ty) (name : String) (flags : MemFlags)
def endsAt (sup : Ty) :=
 sup.isClsObj && ((flags.skipObjBase && sup.isNamed "object") || (flags.skipTyBase && sup.isNamed "type"))

variable (sym : SymId)
def isDeclAsVar : Ask := return (<- declsOf sym).head?.any (·.asVar?.isSome)

def symMem (own : SymFlags) (specd sup : Ty) (isTyDecl : Bool) : ClsMem :=
 {sym, isInstMem := own.instMem, isClsMem := own.clsMem, isSlotsMem := own.slotsMem, clsTy := specd
  unspecCls := sup, isTyDecl}

def memsAt (sup specd : Ty) : Eval (List ClsMem) := do
 let some sym := (<- fieldsOf specd).get? name | pure []
 let info <- infoOf specd
 if flags.skipTdictEnts && info.typedEnts.any (·.known.any (·.1 == name)) then return []
 let own <- symFlags sym
 let isDecl <- hasTypedDecls sym
 let isData := info.dataClsBehav.isSome
 let mem := symMem sym own specd sup isDecl
 let wantsInst := !flags.skipInstMems && own.instMem
 if flags.declOnly && !isDecl then return []
 let instMem := {mem with isInstMem := true, isReadOnly := (<- univ).isMemReadOnly specd name}
 let instMems := if wantsInst then [instMem] else []
 if !(!flags.skipClsMems && own.clsMem) then return instMems
 let asField <- pure (isDecl && (isData || info.flags.tdict)) <&&> isDeclAsVar sym
 let clsObj := if clsTy.isInst then clsTy.clsObj else clsTy
 let made := if name == "__call__" && clsObj.sameCls specd then clsTy.cls.partialCall else none
 pure (instMems ++ [{mem with isInstMem := asField || own.instMem, isClsMem := !asField || isData, made}])

def memsAlong : Tys -> Eval (List ClsMem)
 | [] => pure []
 | sup :: rest => do
  if endsAt flags sup then return []
  if !sup.isClsObj then
   if flags.declOnly then return <- memsAlong rest
   return [unkMem (if sup.isAnyLike then sup else .unk)]
  let mayHave := (<- infoOf sup).synthesis.isSome || (<- infoOf sup).fields.contains name
  if !mayHave then return <- memsAlong rest
  let specd := (<- univ).partlySpec sup clsTy
  if !specd.isClsObj then return <- memsAlong rest
  let hit <- memsAt clsTy name flags sup specd
  if hit.isEmpty then memsAlong rest else pure hit

def memsNamed (flags : MemFlags) (skip : Ty? := none) : Eval (List ClsMem) := do
 if ty.isCls then
  let skip := if flags.skipOrigCls then some (if ty.isObj then ty.clsObj else ty) else skip
  let ancestors := ancestorsFrom (<- univ) ty skip
  memsAlong ty name flags (if flags.skipBaseClasses then ancestors.take 1 else ancestors)
 else return if ty.isAnyLike then [unkMem ty] else []

def clsMem? (flags : MemFlags := {}) (skip : Ty? := none) : Eval (Option ClsMem) := do
 if let some mcls := (<- infoOf ty).metaTy then
  if mcls.isCls && !mcls.isNamed "type" then
   match <- memsNamed mcls name {skipClsMems := true} with
   | hit :: _ => if !hit.clsTy.isAnyLike then return some {hit with isClsMem := true}
   | [] => pure ()
 pure (<- memsNamed ty name flags skip).head?

def objMem? (flags : MemFlags := {}) : Eval (Option ClsMem) := do
 if ty.isObj then clsMem? ty name flags else pure none

def declFields : Eval (ByName ClsMem) := do
 let u <- univ
 (u.mro ty).reverse.foldlM (fun hit sup => do
  let specd := u.partlySpec sup ty
  if !specd.isCls then return []
  (<- fieldsOf specd).ents.toList.foldlM (fun hit (name, sym) => do
   let flags <- symFlags sym
   if flags.noProto || !(<- hasTypedDecls sym) then return hit
   let mem := {symMem sym flags specd sup true with isReadOnly := u.isMemReadOnly specd name}
   return setEnt hit name mem) hit) []

def protoSymsIn (test : ClsFlags -> Bool) : Nat -> Ty -> ByName ClsMem -> Eval (ByName ClsMem)
 | 0, _, hit => pure hit
 | fuel + 1, ty, hit => do
  let u <- univ
  let hit <- (u.info ty).bases.foldlM (fun hit base =>
   if base.isCls && test (u.flags base) then protoSymsIn test fuel base hit else pure hit) hit
  (<- fieldsOf ty).ents.toList.foldlM (fun hit (name, sym) => do
   let flags <- symFlags sym
   if flags.noProto then return hit
   return setEnt hit name (symMem sym flags ty ty (<- hasTypedDecls sym))) hit

def protoSyms (test : ClsFlags -> Bool := (·.proto)) : Eval (ByName ClsMem) := do
 if test (<- flagsOf ty) then protoSymsIn test (maxTyDepth + 1) ty [] else pure []

/-! Types of members. -/

def tyCls? : Eval Ty? := return ((<- get).prefetched.bind (·.tyCls)).filter Ty.isClsObj
def symTyOf := if let some ty := mem.made then pure ty else effTy mem.sym

def tyOfMem : Eval Ty := do
 if mem.clsTy.isClsObj then
  let ty <- symTyOf mem
  return (<- univ).partlySpec ty mem.clsTy (<- tyCls?)
 else pure .unk

def isMaybeDescr (requireSetter : Bool := false) : Ask :=
 ty.subtys.anyM fun mem => do
  if !mem.isObj then return false
  let fields <- fieldsOf mem
  return fields.contains "__get__" && (!requireSetter || fields.contains "__set__")

def isDescr := ty.subtys.allM (isMaybeDescr · true)

end TypeChecker.Infer
