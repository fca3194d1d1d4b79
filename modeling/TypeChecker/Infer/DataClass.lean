import TypeChecker.Infer.Constructor

/-! Classes whose methods follow from their fields. -/

namespace TypeChecker.Infer
open Ty
variable [Evals]
def morphBehav (args : Nodes) : Eval DataClsBehav := do
 let mut behav := {}
 for arg in args do
  let .arg .simple (some nameNode) val := arg.kind
   | report .callIssue (say "dcMakePosPar") arg continue
  let name := nameNode.nameVal
  if ["kw_only_default", "eq_default", "order_default", "frozen_default"].contains name then
   let some given := (<- staticFacts val).val? val | blame "dcMakeWantBoolLit" val
   behav := match name with
   | "kw_only_default" => {behav with kwOnly := given}
   | "eq_default" => {behav with skipGenerateEq := !given}
   | "order_default" => {behav with generateOrder := given}
   | _ => {behav with frozen := given, frozenDflt := given}
  else if name == "field_descriptors" || name == "field_specifiers" then
   let ty := (<- tyOf val).ty
   let specifiers := (if ty.isObjOf "tuple" then ty.tupArgs? else none).bind fun args =>
    args.mapM fun arg =>
     if arg.ty.isClsObj then [arg.ty.clsFullName]
     else if arg.ty.isRoutine then (arg.ty.sigs.take 1).map (·.fn.fullName)
     else none
   let some names := specifiers | blame "dcMakeFieldSpec" val [<- printTy ty]
   behav := {behav with fieldDescrNames := behav.fieldDescrNames ++ names.flatten}
  else blame "dcMakeUnkArg" val [name]
 pure behav

variable (ty : Ty)
def decoBehav? : Option DataClsBehav := do
 let fn <- if ty.isFn then ty else if !ty.isOvld then none else
  (ty.ovls.find? (·.fn.decoBehav.isSome)).or
   ((ty.impl?.filter fun hit => hit.isFn && hit.fn.decoBehav.isSome).or ty.ovls.head?)
 if let some behav := fn.fn.decoBehav then behav
 else if fn.fn.fullName == "dataclasses.dataclass" then
  some {fieldDescrNames := ["dataclasses.field", "dataclasses.Field"]}
 else none

variable (site node : Node)
def overrideBehavior (ty : Ty) (name : String) (val : Bool?) (behav : DataClsBehav) : Eval DataClsBehav := do
 let u <- univ
 match name with
 | "order" => pure {behav with generateOrder := val.getD behav.generateOrder}
 | "kw_only" => pure {behav with kwOnly := val.getD behav.kwOnly}
 | "frozen" =>
  let bases := (u.info ty).bases.filter fun base => base.isClsObj && (u.info base).dataClsBehav.isSome
  let isFrozen base := (u.info base).dataClsBehav.any (·.frozen)
  let isUnfrozen base := !isFrozen base && (u.info base).dataClsMorph.isNone &&
   !(u.info base).declMcls.any fun mcls => mcls.isClsObj && (u.info mcls).dataClsMorph.isSome
  if val == true then
   if bases.any isUnfrozen then blame "dcBaseNotFrozen" site
  else if bases.any isFrozen then blame "dcBaseFrozen" site
  pure {behav with frozen := val.getD behav.frozen}
 | "init" => pure {behav with skipGenerateInit := val.elim behav.skipGenerateInit (!·)}
 | "eq" => pure {behav with skipGenerateEq := val.elim behav.skipGenerateEq (!·)}
 | "slots" =>
  if val == true && (u.info ty).localSlots.isSome then blame "dcSlotsOverwrite" site
  pure {behav with generateSlots := val.getD behav.generateSlots}
 | "hash" | "unsafe_hash" => pure {behav with generateHash := behav.generateHash || val == true}
 | _ => pure behav

def applyBehav (ty : Ty) (args : List Arg) (dflts : DataClsBehav) : Act := do
 let mut behav := {dflts with frozen := dflts.frozenDflt}
 changeCls ty ({· with dataClsBehav := some behav})
 let mut isStated := false
 for arg in args do
  if let (some name, some val) := (arg.name, arg.val) then
   behav <- overrideBehavior name ty name.nameVal ((<- staticFacts val).val? val) behav
   isStated := isStated || name.nameVal == "frozen"
 if !isStated then behav <- overrideBehavior site ty "frozen" dflts.frozenDflt behav
 changeCls ty ({· with dataClsBehav := behav})

def inherEnts : Eval (List DataClsEnt × Bool) := do
 let mut ents := []
 let mut isKnown := true
 for sup in ((<- univ).mro ty).reverse do
  if !sup.isClsObj then
   isKnown := false
   continue
  let _ <- fieldsOf sup
  let u <- univ
  for ent in (u.info sup).dataClsEnts.getD [] do
   let updated := {ent with mroCls := sup, ty := u.applySol ent.ty (u.solOf sup)}
   if ent.isClsVar then ents := ents.filter (·.name != ent.name)
   else if ents.any (·.name == ent.name) then
    ents := ents.map fun old => if old.name == ent.name then updated else old
   else ents := ents ++ [updated]
 pure (ents, isKnown)

def isFieldSpecifier (names : Strings) :=
 (if ty.isRoutine then ty.sigs.head?.map (·.fn.fullName)
  else if ty.isClsObj then ty.clsFullName else none).any names.contains

def specifierDflt? (args : Nodes) (callee : Typed) (name : String) : Eval Bool? := do
 let choose ty := do
  if ty.isFn then return ty
  let (res, _) <- trying node (Evals.checkCall node (args.map .ofNode) ty none {} 0)
  pure res.ovlsUsed.head?
 let tgt <- if callee.ty.isRoutine then choose callee.ty
  else if callee.ty.isClsObj then do
   let some meth := (<- initMeth node callee.ty).1 | pure none
   choose meth.ty
  else pure none
 let some tgt := tgt | pure none
 let some idx := tgt.fn.pars.findIdx? (·.name == some name) | pure none
 let lit? ty := if let some (.bool val) := ty.cls?.bind (·.lit) then val else none
 let declared := if tgt.fn.pars[idx]?.any (·.isTyDecl) then lit? (tgt.parTy idx) else none
 return declared.or ((tgt.fn.parDflt? idx).bind lit?)

def convFn? : Eval Ty? := do
 if ty.isRoutine then return ty
 if ty.isObj then return <- (magicMeth? ty "__call__").plain
 if !ty.isClsObj then return none
 return ((<- Evals.ctorFn ty none 0).bind (·.subtys.head?)).filter (·.isRoutine)

def convInput (val : Node) (fieldTy : Ty) (name : String) : Eval Ty := do
 let valTy <- trying val (return (<- tyOf val .base).ty)
 let some conv <- convFn? valTy | pure fieldTy
 let scope := TyScopeId.ofNode node
 let input := (ofVar {id := <- freshVarId, name := "__converterInput"}).tyVarInst.withVar ({· with scopeId := scope})
 let tgt := ofFn {synth "" with
  scopeId := scope, declRet := fieldTy
  pars := [{par "__input" input with flags := {tyDecl := true, nameSynth := true}}, posSep]}
 let mut accepted := []
 let mut notes := .empty
 for sig in conv.sigs do
  let (fits, constrs) <- (assign (((<- univ).effRet? sig.fn).getD .unk) fieldTy).constrained {}
  let sig <- if fits then solve sig constrs else pure sig
  let (fits, constrs, hit) <- (assign tgt sig).constrainedExplained (some {})
  notes := notes.append hit
  if fits then accepted := accepted ++ [<- solve input (constrs.getD {}) (<- unsolvedIn input.scopeIds)]
 if !accepted.isEmpty then return .combine accepted
 let shown <- printTy fieldTy
 if conv.isFn then
  flag .general "dcConvFn" node [<- printTy conv, name, shown] notes (notes.effSpan.getD node)
 else
  let fn := ((conv.ovls.head?.map (·.fn.name)).filter (· != "")).getD "<anonymous function>"
  blame "dcConvOvlds" node [fn, name, shown] notes
 pure fieldTy

def convDescr (conv : Node) (name : String) (read written : Ty) : Eval SymId := do
 let scope := TyScopeId.ofNode conv
 let descrName := "__converterDescriptor_" ++ name
 let mcls <- builtinTy node "type"
 let pars := (<- univ).tyPars ty
 let own := pars.map fun par => (par.setVarScope scope descrName (some .clsDef)).setComputedVariance .covar
 let made <- newCls conv descrName {} [<- builtinTy node "object"] mcls
 changeCls made ({· with tyPars := own})
 let made := made.withCls ({· with ref.scopeId := scope})
 let sol := .ofArgs pars own
 let u <- univ
 let self := par "self" made.selfVar
 addField made "__set__" clsMemFlags
  (.meth "__set__" [self, par "obj" .any, par "value" (u.applySol written sol)] (<- noneTy))
 addField made "__get__" clsMemFlags (.meth "__get__" [self, par "obj" .any, par "objtype" .any] (u.applySol read sol))
 makeSym clsMemFlags (made.clsInst.spec pars)

def assignedFieldTy := do
 if !ty.isObj || (<- univ).isMclsInst ty then return ty
 let some meth <- (magicMeth? ty "__set__").plain | pure ty
 return if meth.isFn then meth.parTy 1 else ty

structure FieldSrc where
 ent : DataClsEnt
 isInferred : Bool

def readSpecifier (call lhs : Node) (args : Nodes) (names : Strings) (ent : DataClsEnt) : Eval DataClsEnt := do
 let callee <- tyOf lhs .base
 if !isFieldSpecifier callee.ty names then return ent
 let arg? goal : Option (Node × Node) := args.findSome? fun arg => if let .arg _ (some name) val := arg.kind then
   if goal.contains name.nameVal then (arg, val) else none
  else none
 let flag (name : String) (default : Bool) := do match arg? [name] with
  | some (_, val) => return ((<- staticFacts val).val? val).getD default
  | none => return (<- specifierDflt? call args callee name).getD default
 let includeInInit <- flag "init" ent.includeInInit
 let isKwOnly <- flag "kw_only" ent.isKwOnly
 let default := arg? ["default"]
 let factory := arg? ["default_factory", "factory"]
 let initAlias <- if let some (_, val) := arg? ["alias"] then do match (<- tyOf val).ty.cls?.bind (·.lit) with
   | some (.text text) => pure (some text.toString)
   | _ => pure none
  else pure none
 pure {ent with
  includeInInit, isKwOnly, initAlias, hasDflt := default.isSome || factory.isSome, isDfltFactory := factory.isSome
  dfltExpr := (factory.map (·.2)).or ((default.map (·.2)).or ent.dfltExpr), conv := (arg? ["converter"]).map (·.1)}

def fieldStmt? : Eval Node? := do
 let anc <- tree
 let hit := (anc.ancestors node).find? (·.kind matches .assignment .. | .annot ..)
 return match Node.kindOf? hit, hit.bind anc.parent? with
  | some (.annot ..), some parent => if parent.kind matches .assignment .. then parent else hit
  | _, _ => hit

def addDataClsMeths (ty : Ty) (isNamedTup : Bool) (plan : DeferredSynthesis) : Act := do
 let behav := ((<- infoOf ty).dataClsBehav).getD {}
 let self := par "self" ty.selfVar
 let (inher, isKnown) <- inherEnts ty
 let mut full := inher
 let mut own := []
 let mut srcs : List FieldSrc := []
 let mut names := []
 let mut kwOnly := behav.kwOnly
 let anc <- tree
 for (name, sym) in (<- infoOf ty).fields.ents do
  if (<- symFlags sym).noProto || name == "__hash__" then continue
  let decls <- declsOf sym
  let stated := (<- typedDecls sym).find? fun decl => decl.asVar?.isSome && (anc.enclClsOrFn? decl.node).any (·.isCls)
  let some decl := stated.or (decls.find? fun decl => decl.asVar?.any fun data => data.hint.isNone && data.isFinal)
   | if let some last := decls.getLast? then
      if last.asVar?.isSome && !isNamedTup then
       if let some (.assignment _ rhs ..) <- parentKind? last.node then
        if let .call lhs .. := rhs.kind then
         if isFieldSpecifier (<- tyOf lhs .base).ty behav.fieldDescrNames then
          blame "dcFieldWithoutHint" rhs
     continue
  let some stmt <- fieldStmt? decl.node | continue
  let (tgt, val) := if let .assignment lhs rhs .. := stmt.kind then (lhs, some rhs) else (stmt, none)
  let mut ent := {name := "", clsTy := ty, isKwOnly := kwOnly, hasDflt := val.isSome, dfltExpr := val}
  if let some call := val then
   if let .call lhs args _ := call.kind then
    if !isNamedTup then ent <- readSpecifier call lhs args behav.fieldDescrNames ent
  let .annot nameNode hint := tgt.kind | continue
  let some fieldName := nameNode.nameVal? | continue
  ent := {ent with name := fieldName, nameNode, hintNode := hint}
  if val.isNone && !isNamedTup && fieldName == "_" then
   let hinted <- Evals.tyOfAnnot hint {varTyAnnot := true, allowFinal := true, allowClsVar := true}
   if hinted.isObjOf "KW_ONLY" then
    kwOnly := true
    continue
  if isNamedTup && fieldName.startsWith "_" then
   blame "ntFieldUnderscore" nameNode
   continue
  if !names.contains fieldName then names := names ++ [fieldName]
  let isClsVar <- if let some sym := (<- infoOf ty).fields.get? fieldName then pure (<- symFlags sym).clsVar
   else pure false
  if isClsVar then
   full := full.filter (·.name != fieldName)
   own := own ++ [{ent with isKwOnly := false, isClsVar := true}]
   continue
  if let some old := full.find? (·.name == fieldName) then
   if !ent.hasDflt && old.hasDflt && old.includeInInit then
    ent := {ent with hasDflt := true, dfltExpr := old.dfltExpr}
    blame "dcFieldOldDflt" nameNode [fieldName]
  let put (ents : List DataClsEnt) (ent : DataClsEnt) :=
   if ents.any (·.name == ent.name) then ents.map fun old => if old.name == ent.name then ent else old
   else ents ++ [ent]
  own := put own ent
  full := put full ent
  srcs := srcs ++ [{ent, isInferred := stated.isNone && val.isSome}]
  if !ent.isKwOnly && ent.includeInInit && !plan.skipInit && !ent.hasDflt then
   let before := full.takeWhile (·.name != fieldName)
   if before.any fun other => other.hasDflt && other.includeInInit && !other.isKwOnly then
    blame "dcFieldWithDflt" nameNode
 if isNamedTup then changeCls ty ({· with namedTupEnts := names})
 else changeCls ty ({· with dataClsEnts := own})
 for src in srcs do
  let entTy <- match src.isInferred, src.ent.dfltExpr, src.ent.hintNode with
   | true, some val, _ => pure (<- tyOf val).ty
   | _, _, some hint =>
    Evals.tyOfAnnot hint {varTyAnnot := true, allowFinal := !isNamedTup, allowClsVar := !isNamedTup}
   | _, _, _ => pure .unk
  let fill (ent : DataClsEnt) :=
   if ent.nameNode == src.ent.nameNode && !ent.isClsVar then {ent with ty := entTy} else ent
  full := full.map fill
  changeCls ty fun info => {info with dataClsEnts := info.dataClsEnts.map (·.map fill)}
 let isRecent := (<- fileOf node).ver.isAtLeast (.three 13)
 let dflts := if isKnown then [] else dfltPars
 if !plan.skipInit && !plan.hasExistingInit then
  let mut byPos := []
  let mut kws := []
  let mut replacing := []
  for ent in if isKnown then full.filter (·.includeInInit) else [] do
   let u <- univ
   let mut fieldTy := ent.ty
   if ent.clsTy.cls.ref.id != ty.cls.ref.id && u.needsSpec fieldTy then
    fieldTy := u.applySol fieldTy (Univ.addSelf {} ent.clsTy ty)
   fieldTy <- assignedFieldTy fieldTy
   let mut default := if ent.hasDflt then some ent.ty else none
   match ent.conv, Node.kindOf? ent.conv with
   | some conv, some (.arg _ _ val) =>
    let read := fieldTy
    fieldTy <- convInput conv val read ent.name
    setField ty ent.name (<- convDescr ty node conv ent.name read fieldTy)
   | _, _ =>
    if let some val := ent.dfltExpr then
     if ent.hasDflt && !ent.isDfltFactory then
      let live <- tyVarScopes val
      let hit <- trying val do
       pure (<- tyOf val {dotsToAny := (<- inStub node)} (Want.make (u.bindVarsOf live fieldTy))).ty
      let u <- univ
      let hit := u.freeVarsOf live hit
      default := if let some sup := ent.mroCls then
        if u.needsSpec hit then u.applySol hit (u.solOf sup) else hit
       else hit
   if let some nameNode := ent.nameNode then
    if ent.initAlias.isNone && Name.isPrivate nameNode.nameVal then blame "dcFieldWithPrivName" nameNode
   let par := {par (ent.initAlias.getD ent.name) fieldTy default with dfltExpr := ent.dfltExpr}
   if ent.isKwOnly then kws := kws ++ [par] else byPos := byPos ++ [par]
   replacing := replacing ++ [{par with dfltTy := some .ellipsis, dfltExpr := none}]
  let fields := byPos ++ (if kws.isEmpty then [] else kwSep :: kws)
  let construct name pars returns flags :=
   (meth name pars returns flags).withFn ({· with ctorScopeId := ty.cls.ref.scopeId})
  addField ty "__init__" clsMemFlags (construct "__init__"
   (self :: (if isNamedTup then dfltPars ++ dflts else dflts ++ fields)) (<- noneTy) {gradual := isNamedTup})
  let cls := ty.selfVar true
  addField ty "__new__" clsMemFlags (construct "__new__"
   (par "cls" cls :: (if isNamedTup then fields else dfltPars)) cls.toInst
   {ctorMeth := true, gradual := !isNamedTup})
  if isRecent then
   addField ty "__replace__" clsMemFlags (.meth "__replace__" (self :: kwSep :: (dflts ++ replacing)) ty.selfVar)
 let str <- builtinTy node "str"
 let has name := return (<- infoOf ty).fields.contains name
 if str.isClsObj && !(<- has "__match_args__") then
  let args := (full.filter fun ent => ent.includeInInit && !ent.isKwOnly).map fun ent =>
   {ty := str.clsInst.setLit (some (.text (.ofString ent.name))) : TyTupArg}
  addField ty "__match_args__" clsMemFlags (<- tupObj args)
 let bool <- builtinObj node "bool"
 let compare name other := do
  if !(<- has name) then addField ty name clsMemFlags (.meth name [self, par "other" other] bool)
 if !behav.skipGenerateEq then compare "__eq__" (<- builtinObj node "object")
 if behav.generateOrder then for name in ["__lt__", "__le__", "__gt__", "__ge__"] do compare name ty.selfVar
 let hashFlags := {clsMem := true, noOverrideCheck := true}
 if behav.generateHash || behav.frozen && !plan.skipHash then
  addField ty "__hash__" hashFlags (.meth "__hash__" [self] (<- builtinObj node "int"))
 else if !isNamedTup && !behav.skipGenerateEq && !behav.frozen && !plan.skipHash then
  addField ty "__hash__" hashFlags (<- noneTy)
 let varFlags := {clsMem := true, clsVar := true}
 if !isNamedTup then addField ty "__dataclass_fields__" varFlags (<- strDict .any)
 if behav.generateSlots then
  if (<- infoOf ty).localSlots.isNone then changeCls ty ({· with localSlots := own.map (·.name)})
  let iterable := (<- typingTy? node "Iterable").getD .unk
  addField ty "__slots__" varFlags
   (if iterable.isClsObj then (iterable.spec (some [str.clsInst])).clsInst else iterable)
 if <- updateNamedTupBase ty (full.map (·.ty)) true then discard (computeMro ty)

def synthesizeCls : Act := do
 let some plan := (<- infoOf ty).synthesis | return
 changeCls ty ({· with synthesis := none})
 addDataClsMeths plan.node ty false plan

end TypeChecker.Infer
