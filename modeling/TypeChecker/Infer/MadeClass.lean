import TypeChecker.Infer.Variable

/-! Classes that calls make: named tuples, distinct types over other classes, sentinels, and classes that a metaclass
is called for; and properties, whose methods run where an attribute is used. -/

namespace TypeChecker
open Ty
namespace Ty
variable (name : String)
def par (ty : Ty) (default : Ty? := none) : TyPar :=
 {cat := .simple, ty, flags := {tyDecl := true}, name, dfltTy := default}

def meth (pars : List TyPar) (returns : Ty) (flags : FnFlags := {}) : Ty :=
 .ofFn {synth name flags with pars, declRet := returns}

end Ty
namespace Infer
variable [Evals]
def Arg.shownNode (arg : Arg) (site : Node) := arg.node.getD site

variable (site : Node)
def madeName? (arg : Arg) (badName clash : String) : Eval String? := do
 let some name := if arg.cat == .simple then (Arg.str? arg).filter (· != "") else none
  | report .argumentTy badName (Arg.shownNode arg site) return none
 if let some (.assignment lhs ..) <- parentKind? site then
  if lhs.nameVal?.any (· != name) then
   report .general clash lhs
   return none
 pure name

variable (args : List Arg)
def createNewTy : Eval Ty? := do
 let [nameArg, baseArg] := args
  | flag .callIssue "newTyParNum" site return none
 let some name <- madeName? site nameArg (say "newTyBadName") (say "newTyNameBad")
  | pure none
 let place := Arg.shownNode baseArg site
 let given := (<- tyOfArgWant baseArg).ty
 let isAny := given.isAnyLike
 let base <- if isAny then do
   blame "newTyAnyOrUnk" place
   pure ((<- clsOf? (·.objCls)).getD .unk)
  else pure given
 if base.special?.any (·.isObjOf "Annotated") || !base.isClsObj then
  blame "newTyNotACls" place
  return none
 let u <- univ
 if (u.flags base).proto || (u.flags base).tdict then blame "newTyProtoCls" place
 else if base.hasLit then blame "newTyLit" place
 let ty <- newCls site name {final := true, newTy := true, validTyAlias := true}
  [if isAny then .any else base] (u.info base).metaTy
 if !isAny then
  addField ty "__init__" clsMemFlags (.meth "__init__" [par "self" .any, par "_x" base.clsInst] (<- noneTy))
  addField ty "__new__" clsMemFlags
   ((meth "__new__" (par "cls" .any :: dfltPars) ty.clsInst
    {ctorMeth := true}).withFn ({· with ctorScopeId := ty.scopeId?}))
 pure ty

def clsOfMcls (mcls : Ty) : Eval Ty? := do
 let nameArg :: basesArg :: _ := args | pure none
 let nameTy := (<- tyOfArg nameArg).ty
 if !nameTy.isObjOf "str" then return none
 let name := if let some (.text text) := nameTy.lit? then if text.isEmpty then "_" else text.toString else "_"
 let basesTy := (<- tyOfArg basesArg).ty
 if !basesTy.isTupObj then return none
 let some ents := basesTy.tupArgs? | pure none
 let u <- univ
 let bases <- ents.mapM fun ent => do
  let base <- firm ent.ty
  return if u.actsAsInsta base then base else .unk
 let ty <- newCls site name {validTyAlias := true} bases (u.info basesTy).metaTy mcls
 if !(<- computeMro ty) then blame "methOrder" site
 pure ty

def createSentinel : Eval Ty? := do
 let [nameArg] := args
  | flag .callIssue "sentinelParNum" site return none
 let some name <- madeName? site nameArg (say "sentinelBadName") (say "sentinelNameBad")
  | pure none
 let ty <- newCls site name {final := true, validTyAlias := true} [] (<- tyCls?)
 changeCls ty ({· with mro := []})
 let val := (ty.setLit (some (.sentinel ty.clsFullName name))).clsInst
 return val.setTyForm val

/-! Named tuples. -/

def updateNamedTupBase (ty : Ty) (ents : Tys) (isExplicit : Bool) : Ask := do
 let args := if isExplicit then ents.map fun ent => {ty := ent}
  else [{ty := if ents.isEmpty then .unk else .combine ents, isUnb := true}]
 let mut changed := false
 let mut bases := #[]
 for base in (<- infoOf ty).bases do
  if !base.isClsOf "NamedTuple" then bases := bases.push base
  else
   let info <- infoOf base
   let made <- makeCls base.cls.ref { info with bases := info.bases.map fun inner =>
    if inner.isClsObj && inner.isTup then inner.specTup args isExplicit else inner}
   let made := (base.spec none isExplicit).withCls ({· with ref.id := made.cls.ref.id})
   discard (computeMro made)
   bases := bases.push made
   changed := true
 changeCls ty ({· with bases := bases.toList})
 pure changed

structure TupField where
 name : String
 ty : Ty
 hasDflt : Bool

def fieldName (name : String) (allowRename : Bool) (node : Node) (idx : Nat) : Eval String := do
 if !isKw name then return name
 if allowRename then return s!"_{idx}"
 blame "ntNameKw" node
 pure name

def fieldsOfText (text : String) (node : Node) (dflts : Nat?) (allowRename : Bool) : Eval (List TupField) := do
 let isSep c := c == ',' || c == ' ' || ('\t' <= c && c <= '\r') || c == '\xa0'
 let groups := text.toList.foldr (fun c groups =>
  if isSep c then (if groups.2 then groups.1 else [] :: groups.1, true)
  else if let first :: rest := groups.1 then ((c :: first) :: rest, false) else ([[c]], false)) ([[]], false)
 let names := groups.1.map String.ofList
 let firstDflt := if let some count := dflts then names.length - count else 0
 names.zipIdx.filterMapM fun (name, idx) => do
  if name.isEmpty then return none
  if name.startsWith "_" then
   blame "ntFieldUnderscore" node
   return none
  let name <- fieldName name allowRename node idx
  return some {name, ty := .unk, hasDflt := decide (idx >= firstDflt)}

def fieldsOfList (items : Nodes) (includesTys : Bool) (dflts : Nat?) (allowRename : Bool) :
  Eval (List TupField × Bool) := do
 let firstDflt := if let some count := dflts then items.length - count else 0
 let mut fields := #[]
 let mut isKnown := true
 for (item, idx) in items.zipIdx do
  let (nameNode, ty) : Node? × Ty <- if includesTys then do
    if let .tup [name, hint] _ := item.kind then pure (name, (<- Evals.tyWant hint {}).ty.toInst)
    else
     flag .argumentTy "ntNameTy" item
     pure (none, .unk)
   else pure (item, .unk)
  let mut name := ""
  if let some nameNode := nameNode then
   let hit := (<- tyOf nameNode).ty
   match hit.isObjOf "str", hit.lit? with
   | true, some (.text text) =>
    name := text.toString
    if name.isEmpty then blame "ntEmptyName" nameNode
    else if name.startsWith "_" then
     blame "ntFieldUnderscore" nameNode
     continue
    else name <- fieldName name allowRename nameNode idx
   | _, _ => isKnown := false
  else isKnown := false
  if name.isEmpty then name := s!"_{idx}"
  if fields.any (·.name == name) then blame "ntNameUnique" (nameNode.getD item)
  fields := fields.push {name, ty, hasDflt := decide (idx >= firstDflt)}
 pure (fields.toList, isKnown)

def createNamedTup (includesTys : Bool) : Eval Ty := do
 let file <- fileOf site
 let static <- staticFacts site
 let argNamed name := (args.find? (·.name.any (·.nameVal == name))).bind (·.val)
 let allowRename := !includesTys && (argNamed "rename").any (static.val? · == true)
 let mut clsName := "namedtuple"
 match args with
 | [] => flag .callIssue "ntArg1" site
 | first :: _ =>
  if first.cat != .simple then flag .argumentTy "ntArg1" (Arg.place first site)
  else clsName := (Arg.str? first).getD clsName
 let dflts <- if let some val := argNamed "defaults" then do
   let ty := (<- tyOf val).ty
   pure (if ty.isTupObj && !ty.isUnbTup then ty.tupArgs?.map (·.length) else none)
  else pure (some 0)
 let base := (<- typingTy? site "NamedTuple").getD .unk
 let u <- univ
 let mcls := if base.isClsObj then (u.info base).metaTy else some .unk
 let ty <- makeCls
  {id := 0, name := clsName, fullName := (<- tree).qualifiedName site file.modName clsName
   modName := file.modName, srcId := site.start, scopeId := some (.ofNode site)}
  {flags := {validTyAlias := true}, uri := .file file.path, bases := [base], metaTy := mcls}
 addField ty "__class__" {clsMem := true, noProto := true} ty
 let mut fields := []
 let mut isOpen := false
 match args with
 | _ :: ents :: _ =>
  match ents.cat, Arg.str? ents, ents.val with
  | .simple, text, some val =>
   match text, includesTys, val.kind with
   | some text, false, _ => fields <- fieldsOfText text val dflts allowRename
   | _, _, .list items | _, _, .tup items _ =>
    let (hit, isKnown) <- fieldsOfList items includesTys dflts allowRename
    fields := hit
    isOpen := !isKnown
    writeTy val .unk
   | _, _, _ => isOpen := true
   if !isOpen then writeTy val (.ofTy .any)
  | _, _, _ => isOpen := true
 | _ =>
  flag .callIssue "ntArg2" site
  isOpen := true
 let isFromText := args[1]?.any fun arg => !includesTys && (Arg.str? arg).isSome
 let self := par "self" ty.selfVar
 for field in fields do addField ty field.name {instMem := true, namedTupMem := !isFromText} field.ty
 changeCls ty ({· with namedTupEnts := some (if isFromText then [] else fields.map (·.name))})
 let pars := fields.map fun field =>
  {par field.name field.ty (if field.hasDflt then field.ty else none) with
  flags := {tyDecl := includesTys || isFromText}}
 let cls := ty.selfVar true
 let ctor := meth "__new__"
  (if isOpen then dfltPars else par "cls" cls :: pars)
  cls.toInst {ctorMeth := true, disableDfltChecks := (<- tree).setsNamedTupDflts site}
 addField ty "__new__" clsMemFlags (ctor.withFn ({· with ctorScopeId := ty.scopeId?, scopeId := ty.scopeId?}))
 addField ty "__init__" clsMemFlags ((meth "__init__" (self :: dfltPars)
  (<- noneTy)).withFn ({· with ctorScopeId := ty.scopeId?}))
 addField ty "__len__" clsMemFlags (.meth "__len__" [self] (<- builtinObj site "int"))
 if isOpen then
  addField ty "__getattribute__" clsMemFlags (.meth "__getattribute__"
   [self, par "name" (<- builtinObj site "str")] .any)
 else
  let names <- fields.mapM fun field =>
   return ({ty := <- litObj site "str" (.text (.ofString field.name))} : TyTupArg)
  addField ty "__match_args__" clsMemFlags (<- tupObj names)
 discard (updateNamedTupBase ty (fields.map (·.ty) ++ (if isOpen then [.any, .ellipsis] else [])) !isOpen)
 discard (computeMro ty)
 pure ty

def isNeverImplemented (decl : Decl) : Ask := do
 let some fn := decl.asFn? | pure false
 let some parts := decl.node.fnParts? | pure false
 if !fn.isMeth || !fn.returns.isEmpty || !fn.yields.isEmpty || fn.raises.isEmpty then return false
 if parts.suite.stmts.any fun stmt => !(stmt.kind matches .stmtList ..) then return false
 fn.raises.allM fun stmt => do
  let .raiseStmt (some raised) none := stmt.kind | pure false
  let ty := (<- tyOf raised).ty
  return ty.isCls && (<- univ).derivesFromBuiltIn ty "NotImplementedError"

structure AbsSym where
 name : String
 clsTy : Ty
 hasImpl : Bool

variable (clsTy : Ty)
def absSym? (name : String) : Eval (Option AbsSym) := do
 let some sym := (<- fieldsOf clsTy).get? name | pure none
 let flags <- symFlags sym
 if !flags.clsMem && !flags.namedTupMem then return none
 let some last <- lastTypedDecl? sym | pure none
 let isProto := (<- flagsOf clsTy).proto
 let decls <- declsOf sym
 if isProto && last.asVar?.isSome then
  if !decls.any (·.asVar?.any (·.inferredSrc.isSome)) then return some {name, clsTy, hasImpl := false}
 if last.asFn?.isNone then return none
 let lastFacts <- Evals.decoFacts last.node true
 let isStub <- inStub last.node
 let first? := decls.head?.filter fun first => first.node != last.node && first.asFn?.isSome
 let firstIsAbs <- if let some first := first? then do pure (<- Evals.decoFacts first.node true).flags.absMeth
  else pure false
 let isAbs := lastFacts.flags.absMeth || firstIsAbs
 if first?.isSome && isProto && lastFacts.flags.ovld then
  return if !isAbs && isStub then none else some {name, clsTy, hasImpl := false}
 if !isProto && !isAbs then return none
 let some parts := last.node.fnParts? | pure none
 let hasImpl <- pure !parts.suite.isStubSuite <&&> not <$> isNeverImplemented last
 return if isProto && !isAbs && (hasImpl || isStub) then none else some {name, clsTy, hasImpl}

def absSyms : Eval (List AbsSym) := do
 let mut hit := []
 for sup in ((<- univ).mro clsTy).reverse do
  if sup.isClsObj then
   for (name, _) in (<- fieldsOf sup).ents do
    hit <- if let some sym <- absSym? sup name then pure (setEnt hit name sym) else pure (hit.filter (·.1 != name))
 return hit.map (·.2)

def noteAbs (syms : List AbsSym) : Adden :=
 let notes := (syms.take 2).foldl (fun notes sym => notes.say "memIsAbs" [sym.clsTy.clsName, sym.name]) .empty
 if syms.length > 2 then notes.say "memIsAbsMore" [(syms.length - 2).repr] else notes

/-! ## Property -/

def accessorOf (meth accessor : Ty) :=
 accessor.withFn ({· with depr := meth.fn.depr, methCls := meth.fn.methCls, scopeId := meth.scopeId?})

def makeProp (node : Node) (src : Ty) (ref : ClsRef) (flags : ClsFlags) (getter setter deleter : Option (PropMeth Ty))
  (isUneven : Bool := false) : Eval Ty := do
 let u <- univ
 let info := u.info src
 let obj <- builtinTy node "object"
 let made <- makeCls ref {
  flags, uri := .file (<- fileOf node).path, decl := info.decl, bases := [if obj.isClsObj then obj else .unk]
  declMcls := info.declMcls, metaTy := info.metaTy}
 let ty := made.withCls ({· with isAsymDescr := isUneven})
 discard (computeMro ty)
 let mut fields := {}
 for (name, sym) in info.fields.ents do
  if !(["__get__", "__set__", "__delete__"].contains name) && !(<- symFlags sym).noProto then
   fields := fields.set name sym
 changeCls ty ({· with fields})
 let prop := ty.clsInst.withCls ({· with getter, setter, deleter})
 let self := par "self" .any
 let none_ <- noneTy
 let add name meth := addField ty name clsMemFlags meth
 let tgt meth := do
  let first := (meth.fn.pars.head?.map fun _ => meth.parTy 0).getD .any
  return .combine [<- if first.isSelfVar then firm first else pure first, none_]
 if let some meth := getter.map (·.meth) then
  if meth.isFn then
   let ret := u.effRet? meth.fn
   let get first declRet := accessorOf meth <| .ofFn {synth "__get__" {ovld := true} with
    pars := [self, par "obj" first, par "objtype" .any (some .ellipsis)], declRet
    decl := meth.fn.decl}
   add "__get__" (.ofOvls
    [get ((meth.fn.pars.head?.map fun _ => meth.parTy 0).getD .any) ret,
     get none_ (if meth.fn.flags.clsMeth then ret else prop)])
 if let some meth := setter.map (·.meth) then
  if meth.isFn then
   let val := if let some par := meth.fn.pars[1]? then
     if par.cat == .simple && par.name.isSome then meth.parTy 1 else .unk
    else .unk
   add "__set__" (accessorOf meth (.meth "__set__" [self, par "obj" (<- tgt meth), par "value" val] none_))
 if let some meth := deleter.map (·.meth) then
  if meth.isFn then add "__delete__" (accessorOf meth (.meth "__delete__" [self, par "obj" (<- tgt meth)] none_))
 for name in ["getter", "setter", "deleter"] do add name (.meth name [self, par "accessor" .any] prop)
 pure prop

def checkPropMeth (meth : Ty) (site : Node) : Act := do if meth.fn.flags.staticMeth then blame "propStaticMeth" site

def createProp (deco : Node) (ty meth : Ty) : Eval Ty := do
 let file <- fileOf deco
 let mcls <- builtinTy deco "type"
 let ref := {ty.cls.ref with
  fullName := (<- tree).qualifiedName deco file.modName ("__property_" ++ meth.fn.name), modName := file.modName
  srcId := if ty.isNamed "property" then deco.start else ty.cls.ref.srcId}
 let prop <- makeProp deco ty ref {prop := true, builtIn := true, clsProp := meth.fn.flags.clsMeth}
  (some {meth, clsTy := meth.fn.methCls}) none none
 changeCls prop ({· with declMcls := none, metaTy := some (if mcls.isClsObj then mcls else .unk)})
 pure prop

def withSetter (prop meth : Ty) (fn : Node) : Eval Ty := do
 let data := prop.cls
 let mut isUneven := data.isAsymDescr
 if let some parts := fn.fnParts? then
  if let some hint := if parts.pars.length >= 2 then Node.hintOfPar? parts 1 else none then
   if let some read <- propTy? prop then
    if !read.isAnyLike then
     let written <- Evals.tyOfAnnot hint {bindsTyVars := true}
     let (fits, notes) <- (assign read written).explained
     if !fits then flag .propTyClash "setterGetterTyBad" hint [] notes
     if !read.isSame written then isUneven := true
 makeProp fn prop data.ref (<- flagsOf prop) data.getter (some {meth, clsTy := meth.fn.methCls}) data.deleter isUneven

def withDeleter (prop meth : Ty) (fn : Node) := do
 let data := prop.cls
 makeProp fn prop data.ref (<- flagsOf prop) data.getter data.setter
  (some {meth, clsTy := meth.fn.methCls}) data.isAsymDescr

end Infer
end TypeChecker
