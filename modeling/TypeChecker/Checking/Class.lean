import TypeChecker.Checking.Expression

/-! Class statements: the bases of a class, its fields, and the methods that make its instances. -/

namespace TypeChecker.Check
open Infer
variable [Evals] (ty : Ty)
def isNamedTupEnt (name : String) := return ((<- infoOf ty).namedTupEnts.getD []).contains name

/-! ### Bases -/

variable (parts : ClsParts Node) (ty : Ty)
def checkProtoBases : Act := do
 for arg in parts.args do
  if let .arg _ none val := arg.kind then
   let some base <- tyAt? val | continue
   if base.isClsObj && !base.isBuiltIn ["Protocol", "Generic"] && !(<- flagsOf base).proto then
    blame "protoBase" val [ty.clsName, base.clsName]

def checkProtoVariance : Act := do
 for (par, idx) in ((<- univ).tyPars ty).zipIdx do
  if par.isTupVar || par.isSigVar || par.shared.isSynth || par.shared.declVariance == .auto then continue
  let want <- varianceByUse ty idx true
  if want != par.shared.declVariance then
   let msg := match want with
    | .covar => "protoVaryCo"
    | .contra => "protoVaryContra"
    | _ => "protoVaryInv"
   flag .invalidTyVarUse msg parts.name [par.shared.name, ty.clsName]

def checkEnumBases : Act := do
 for (base, idx) in (<- infoOf ty).bases.zipIdx do
  if base.isCls then
   if <- isEnumWithMems base then blame "enumClsOver" ((parts.args[idx]?).getD parts.name) [base.clsName]

variable (site : Node)
def checkBases : Act := do
 let u <- univ
 let bases := (u.info ty).bases
 if !bases.all (·.isCls) then return
 let bases := bases.filter (!·.isBuiltIn ["Generic", "Protocol", "object"])
 if bases.length < 2 then return
 let scopes := ty.scopeIds
 let mut notes := .empty
 for base in bases do
  let sol := u.solOf base
  for sup in u.mro base do
   if !sup.isCls || (u.tyPars sup).isEmpty then continue
   let specd := u.applySol sup sol
   let some own := (u.mro ty).find? fun other => other.isCls && other.isOfSameCls specd | continue
   if !own.isClsObj then continue
   let own := u.bindVarsOf scopes own.clsInst
   let given := u.bindVarsOf scopes specd.clsInst
   if !(<- canAssign own given) then
    let obj := base.toInst
    let note <- if obj.isSame given then pure (say "baseBadNote" [<- printTy obj, <- printTy own])
     else pure (say "baseBadSubclass" [<- printTy obj, <- printTy given, <- printTy own])
    notes := notes.addChild (.ofMsg note)
    break
 if !notes.isEmpty then blame "baseUnfit" site [ty.clsName] notes

/-! ### Fields -/

def checkSlots : Act := do
 if (<- infoOf ty).localSlots.isNone || (<- isDataCls ty) then return
 for (name, sym) in (<- fieldsOf ty).ents do
  let decls <- declsOf sym
  if decls.any fun decl => decl.asVar?.any (·.isDefinedBySlots) then
   for decl in decls do
    let isOther := decl.asVar?.any fun data => !data.isDefinedBySlots && !data.isMemDefined
    if isOther && decl.node.isName && (<- tree).isWritten decl.node then blame "slotsClsVarClash" decl.node [name]

def checkFinalFields : Act := do
 for (name, sym) in (<- fieldsOf ty).ents do
  let some parent <- clsMem? ty name {skipOrigCls := true} | continue
  if !parent.clsTy.isClsObj || Name.isPrivate name then continue
  let some first := (<- declsOf sym).head? | continue
  if (<- declsOf parent.sym).any isFinalDecl then
   blame "finalAgainBySubclass" first.node [name, parent.clsTy.clsName]
  else if (<- isNamedTupEnt parent.clsTy name) && !Name.isDunder name && first.asVar?.isSome then
   flag .varOverride "ntEntryAgain" first.node [name, parent.clsTy.clsName]

def checkTdictSuite (suite : Node) : Act := do
 for stmt in suite.stmts do
  if <- isLhsOut stmt then continue
  let parts := if let .stmtList _ stmts := stmt.kind then stmts else [stmt]
  for part in parts do
   match part.kind with
   | .annot .. | .ellipsis | .strList .. | .passStmt => pure ()
   | _ => blame "tdBadVar" part

def checkEnumMem (makers : List Typed) (declared : Ty?) (name : String) (sym : SymId) : Act := do
 let some mem <- enumMemTy? ty name true | return
 let some (.enum lit) := mem.lit? | return
 if !mem.isObj || !mem.isOfSameCls ty then return
 if let some typed := (<- typedDecls sym).head? then
  if typed.asVar?.any (·.inferredSrc.isSome) then blame "enumMemTyHint" typed.node
  return
 let decls <- declsOf sym
 let some first := decls.head? | return
 let some facts := first.asVar? | return
 if let some second := decls[1]? then return <- blame "dupEnumMem" second.node [name]
 if facts.isFinal then blame "enumMemTyHint" first.node
 let val := lit.itemTy
 let assignment := (<- tree).nearestOfKind? first.node (·.kind matches .assignment ..)
 let site := if let some (.assignment _ rhs ..) := assignment.map (·.kind) then rhs else first.node
 if !makers.isEmpty then
  if !val.isAnyLike then
   let cat := if val.isTupObj then .unpList else .simple
   for maker in makers do discard (Evals.checkCall site [{cat, res := val}] maker none {} 0)
 else if let some declared := declared then
  let (fits, notes) <- Match.explained (assign declared val)
  if !fits then
   let (src, dest) <- printPair val declared
   flag .assignmentTy "tyBad" site [src, dest] notes

def checkEnumMems : Act := do
 if !(<- isEnum ty) || ty.cls.ref.isBuiltIn then return
 let declared <- declEnumVal? ty true
 let own res := (res.1.filter fun res => !res.clsTy.any fun owner => owner.isCls && owner.cls.ref.isBuiltIn).toList
 let makers := own (<- newMeth parts.name ty) ++ own (<- initMeth parts.name ty.clsInst)
 for (name, sym) in (<- fieldsOf ty).ents do checkEnumMem ty makers declared name sym

def checkUnset : Act := do
 if (<- inStub parts.name) || !(<- isReported .unsetInstVar parts.name) then return
 let flags <- flagsOf ty
 if flags.proto || flags.hasAbs && !flags.final then return
 let isData <- isDataCls ty
 let ents <- if isData then (·.1) <$> inherEnts ty else pure []
 let mut open_ <- if flags.final then protoSyms ty (·.hasAbs) else pure []
 for (name, sym) in (<- fieldsOf ty).ents do
  open_ := open_.filter (·.1 != name)
  if !(<- symFlags sym).instMem then continue
  let decls <- declsOf sym
  let anc <- tree
  let isEnt := isData || (<- isNamedTupEnt ty name) || flags.tdict
  let isSet decl :=
   (anc.enclClsOrFn? decl.node).all fun owner =>
    let hasVal := match anc.parent? decl.node with
     | some {kind := .assignment .., ..} => true
     | some parent@{kind := .annot .., ..} => (anc.parentKind? parent matches some (.assignment ..))
     | _ => false
    owner.isCls && (hasVal || isEnt) ||
     ((owner.fnParts?.map (·.name)).or (owner.clsParts?.map (·.name))).any (·.nameVal == "__init__")
  if decls.any isSet || (<- clsMem? ty name {skipOrigCls := true}).isSome then continue
  if let some first := decls.head? then flag .unsetInstVar "unsetInstVar" first.node [name]
 let mut notes := .empty
 for (name, mem) in open_ do
  let decls <- declsOf mem.sym
  if !decls.head?.any (·.asVar?.isSome) || !mem.clsTy.isCls then continue
  let isSet := if let some ent := ents.find? (·.name == name) then ent.includeInInit
   else decls.any (·.asVar?.any (·.inferredSrc.isSome))
  if !isSet then notes := notes.say "unsetAbsVar" [name, mem.clsTy.clsName]
 if !notes.isEmpty then flag .unsetInstVar "unsetAbsVars" parts.name [ty.clsName] notes

/-! ### Methods -/

def checkPostInit : Act := do
 if !(<- isDataCls ty) then return
 let some mem <- clsMem? ty "__post_init__" {skipBaseClasses := true, declOnly := true} | return
 let u <- univ
 if u.derivesFromAny ty then return
 let mut fields := []
 for sup in (u.mro ty).reverse do
  if sup.isCls then
   if <- isDataCls sup then
    for (name, sym) in (<- fieldsOf sup).ents do
     if (<- symFlags sym).initVar then fields := setEnt fields name sym
 let meth <- tyOfMem mem
 if !meth.isFn || !meth.fn.isInstMeth then return
 let some id := meth.fn.decl | return
 let some parts := (<- declAt id).node.fnParts? | return
 let list := (<- univ).parList meth
 if list.argsIdx.isSome || list.kwargsIdx.isSome || list.firstKwOnly.isSome then return
 let needed := (List.range list.pars.size).filter fun idx => (meth.fn.parDflt? idx).isNone
 if fields.length + 1 < needed.length || fields.length + 1 > list.pars.size then
  blame "dcPostInitParNum" parts.name [fields.length.repr]
 for ((name, sym), idx) in fields.zipIdx do
  let some par := list.pars[idx + 1]? | break
  let hints := parts.pars.filterMap fun node => do
   let given <- node.parParts?
   if (given.name.bind (·.nameVal?)) == par.name? then some (given.hint <|> given.hintCmt) else none
  let some hint := hints.head?.join | continue
  if !par.par.isTyDecl then continue
  let some fieldTy <- declTy? sym | continue
  let (fits, notes) <- Match.explained (assign (meth.parTy (par.idx.getD 0)) fieldTy)
  if !fits then blame "dcPostInitTy" hint [name] notes

def checkFinalComplete : Act := do
 let flags <- flagsOf ty
 if !flags.final || !flags.hasAbs then return
 let syms <- absSyms ty
 if !syms.isEmpty then blame "finalClsIsAbs" parts.name [ty.clsName] (noteAbs syms)

def checkConstructors : Act := do
 if !(<- isReported .mixedCtor site) then return
 if (<- mclsCall? site ty).isSome then return
 let usable res : Option (Ty × Ty) := do
  let hit <- res.1
  let owner <- hit.clsTy
  if hit.tyErrs || !owner.isCls then none
  let ty <- if hit.ty.isOvld then hit.ty.impl? else hit.ty
  if ty.isFn && !Ty.hasDfltPars ty.fn then (ty, owner) else none
 let some (new, newOwner) := usable (<- newMeth site ty) | return
 let some (init, initOwner) := usable (<- initMeth site ty.clsInst) | return
 let isInit := initOwner.isOfSameCls ty
 if !isInit && !newOwner.isOfSameCls ty then return
 let flags := {skipRetCheck := true}
 if (<- canAssign new init flags) && (<- canAssign init new flags) then return
 let some initId := init.fn.decl | return
 let some newId := new.fn.decl | return
 let main <- declAt (if isInit then initId else newId)
 let notes := Adden.empty.say "initMethSig" [<- printTy init]
 let notes := notes.say "newMethSig" [<- printTy new]
 let shown <- printTy (if isInit then initOwner else newOwner).clsInst
 flag .mixedCtor "ctorParsBad" (main.nameNode?.getD main.node) [shown] notes

end TypeChecker.Check
