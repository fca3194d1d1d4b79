import TypeChecker.Infer.MadeClass

/-! Classes of typed dictionaries: their methods, which follow from their entries, the classes that calls
make, and the dictionaries that fit a class. -/

namespace TypeChecker.Infer
open Match Ty
variable [Evals]
def Ty.separators (isUsed : Bool) (separators : List TyPar) := if isUsed then separators else []

def dfltVar (scope : TyScopeId) (clsName : String) := do
 return (ofVar {id := <- freshVarId, name := "__TDefault"}).tyVarInst.setVarScope scope clsName (some .fn)

structure EntMeths where
 (get pop setDflt : Array Ty := #[])

def addTdictMeths (node : Node) (ty : Ty) : Act := do
 let obj := ty.clsInst
 let none_ <- noneTy
 let ents <- typedEnts ty
 let extra <- if let some extra := ents.extra then pure extra else extraEnt ty
 let known := ents.known
 let isUsed := !known.isEmpty
 let allReadOnly := isUsed && known.all (·.2.isReadOnly)
 let scope := TyScopeId.ofNode node
 let ovld := {ovld := true}
 let self := par "self" obj
 let add name meth := addField ty name clsMemFlags meth
 let construct (meth : Ty) := meth.withFn ({· with ctorScopeId := ty.scopeId?})
 let kwargs := ((ents.extra.filter (!·.valTy.isNever)).map fun extra =>
  {par "kwargs" extra.valTy with cat := .kwargsDict}).toList
 let fields isOpt := known.map fun (name, ent) =>
  par name ent.valTy (if isOpt ent then ent.valTy else none)
 let init1 := construct <| .meth "__init__" ([self, par "__map" obj]
  ++ Ty.separators isUsed [posSep, kwSep] ++ fields (fun _ => true) ++ kwargs)
  none_ ovld
 let init2 := construct <| .meth "__init__" ([self] ++ Ty.separators isUsed [kwSep]
  ++ fields (!·.isReq) ++ kwargs) none_ ovld
 add "__init__" (.ofOvls [init1, init2])
 add "__new__" (construct <| .meth "__new__" (par "cls" ty :: dfltPars) obj {ctorMeth := true})
 let str <- builtinTy node "str"
 if !str.isClsObj then return
 let str := str.clsInst
 let lit name := str.setLit (some (.text (.ofString name)))
 let inScope (meth : Ty) := meth.withFn ({· with scopeId := scope})
 let getPlain key val (isReq : Bool) := inScope <|
  .meth "get" [self, par "k" key] (if isReq then val else .combine [val, none_]) ovld
 let withDefault name key val isReq isOpt := do
  let default <- dfltVar scope ty.clsName
  let ret := if isReq then val else .combine [val, default]
  let given := if isReq then .any else ret
  return inScope <| .meth name [self, par "k" key, par "default" given (if isOpt then given else none)] ret ovld
 let pops key val : Eval Tys :=
  return [.meth "pop" [self, par "k" key] val ovld, <- withDefault "pop" key val false true]
 let mut methods : EntMeths := {}
 for (name, ent) in known do
  let key := lit name
  let val := ent.valTy
  methods := {methods with
   get := methods.get ++ #[getPlain key val ent.isReq, <- withDefault "get" key val ent.isReq false]}
  if !ent.isReq && !ent.isReadOnly then methods := {methods with pop := methods.pop ++ (<- pops key val)}
  if !ent.isReadOnly then
   let meth := meth "setdefault" [self, par "k" key, par "default" val] val ovld
   methods := {methods with setDflt := methods.setDflt.push meth}
 if (<- flagsOf ty).isClosedDict then
  let val := extra.valTy
  methods := {methods with
   get := methods.get ++ #[getPlain str (.combine [val, none_]) true, <- withDefault "get" str val false false]}
  if !val.isNever then methods := {methods with pop := methods.pop ++ (<- pops str val)}
 else
  methods := {methods with
   get := methods.get ++ #[getPlain str .any false, <- withDefault "get" str .any false false]
   pop := methods.pop ++ (<- pops str (<- objTy))}
 add "get" (.ofOvls methods.get.toList)
 if !methods.pop.isEmpty then add "pop" (.ofOvls methods.pop.toList)
 if !methods.setDflt.isEmpty then add "setdefault" (.ofOvls methods.setDflt.toList)
 if !allReadOnly then add "__delitem__" (.meth "delitem" [self, par "k" str] none_ ovld)
 let written := known.filter (!·.2.isReadOnly)
 let pairs <- written.mapM fun (name, ent) => tupObj [{ty := lit name}, {ty := ent.valTy}]
 let iterable <- if let some iterable := (<- typingTy? node "Iterable").filter (·.isClsObj) then
   pure [par "__m" (iterable.clsInst.spec (some [.combine pairs]))]
  else pure []
 let whole := if allReadOnly then .never else (ty.withCls ({· with isTdictPartial := true})).clsInst
 let pos := Ty.separators isUsed [posSep]
 add "update" (.ofOvls [.meth "update" (self :: iterable ++ pos) none_ ovld,
  .meth "update" (self :: par "__m" whole :: pos) none_ ovld,
  .meth "update" (self :: Ty.separators isUsed [kwSep]
   ++ written.map fun (name, ent) => par name ent.valTy (some .ellipsis)) none_ ovld])
 if let some val <- dictEquivalent? ty 0 then
  add "clear" (.meth "clear" [self] none_)
  add "popitem" (.meth "popitem" [self] (<- tupObj [{ty := str}, {ty := val}]))
 if let some val <- mappingEquivalent? ty then
  let key := if ents.extra.any (·.valTy.isNever) then .combine (known.map fun (name, _) => lit name) else str
  for name in ["items", "keys", "values"] do
   if let some view := (<- typingTy? node ("dict_" ++ name)).filter (·.isClsObj) then
    if ((<- univ).tyPars view).length == 2 then add name (.meth name [self] (view.clsInst.spec [key, val]))

def addDeclEnts (ty : Ty) (dict : Node) (items : Nodes) (isRuntime : Bool) : Act := do
 let mut names := []
 for item in items do
  let .dictKeyEnt key val := item.kind
   | blame "tdArg2DictEntry" item continue
  if !(key.kind matches .strList ..) then
   blame "tdEntryName" key
   continue
  let name := key.stringsVal.toString
  if name.isEmpty then blame "tdEmptyName" key
  else if names.contains name then blame "tdEntryUnique" key
  else
   names := name :: names
   setField ty name (<- declareSym {instMem := true} key val isRuntime)
 writeTy dict .unk

def inlineTdict? (dict : Node) (items : Nodes) : Eval Ty? := do
 let some base := (<- prefetched).tdictCls.filter (·.isClsObj) | pure none
 let ty <- newCls dict "<TypedDict>" {tdict := true} [base] (<- infoOf base).metaTy
 addDeclEnts ty dict items false
 addTdictMeths dict ty
 pure ty

def createTdict (site : Node) (base : Ty) (args : List Arg) : Eval Ty := do
 let name? <- match args with
  | [] => do
   flag .callIssue "tdArg1" site
   pure none
  | first :: _ => do
   let name := if first.cat == .simple then Arg.str? first else none
   if name.isNone then flag .argumentTy "tdArg1" (Arg.place first site)
   pure name
 let name := (name?.filter (· != "")).getD "TypedDict"
 let ty <- newCls site name {tdict := true, validTyAlias := true} [base] (<- infoOf base).metaTy
 addField ty "__class__" {clsMem := true, noProto := true} ty
 match args with
 | _ :: ents :: rest =>
  match ents.cat == .simple, Node.kindOf? ents.val, ents.val with
  | true, some (.dict items _), some dict =>
   addDeclEnts ty dict items true
   let isExperimental <- hasTyForms site
   let mut sawClosed := false
   for arg in rest do
    let place := Arg.place arg site
    let argName := arg.name.elim "" (·.nameVal)
    let conflict := blame "tdExtraItemsClosed" place
    if argName == "total" || argName == "closed" then
     match Node.kindOf? arg.val with
     | some (.const .falseKw) =>
      if argName == "total" then changeFlags ty ({· with canOmitDictVals := true})
      else if isExperimental then
       if sawClosed then conflict
       sawClosed := true
     | some (.const .trueKw) =>
      if argName == "closed" && isExperimental then
       changeFlags ty ({· with tdictClosed := true, isClosedDict := true})
       if sawClosed then conflict
       sawClosed := true
     | _ => blame "tdBoolPar" place [argName]
    else if argName == "extra_items" && isExperimental then
     changeCls ty ({· with tdictExtraItems := arg.val})
     changeFlags ty ({· with isClosedDict := true})
     if sawClosed then conflict
     sawClosed := true
    else flag .callIssue "tdExtraArgs" place
  | _, _, _ =>
   if ents.name.isSome then
    let mut names := []
    for arg in ents :: rest do
     if let (some nameNode, some val) := (arg.name, arg.val) then
      let name := nameNode.nameVal
      if names.contains name then blame "tdEntryUnique" val
      else
       names := name :: names
       setField ty name (<- declareSym {instMem := true} nameNode val true)
   else flag .argumentTy "tdArg2Dict" site
 | _ => flag .callIssue "tdArg2Dict" site
 addTdictMeths site ty
 if let (some name, some (.assignment lhs ..)) := (name?.filter (· != ""), <- parentKind? site) then
  let tgt := if let .annot val _ := lhs.kind then val else lhs
  if tgt.nameVal?.any (· != name) then blame "tdSetName" tgt [name]
 pure ty

def fitTdict (ty : Ty) (keys vals : List Typed) : Match Ty? := do
 let isGeneric := !((<- univ).tyPars ty).isEmpty
 let generic := if isGeneric && ty.tyArgs?.isSome then ty.spec none else ty
 let ents <- typedEnts generic
 let mut constrs := if isGeneric then some {} else none
 let mut fits := true
 let mut provided := []
 let mut narrowed := []
 for (key, val) in keys.zip vals do
  let some (.text text) := if key.ty.isObjOf "str" then key.ty.lit? else none
   | fits := false continue
  let name := text.toString
  let span := (key.node.map (·.span)).getD ⟨0, 0⟩
  let tryVal goal shown constrs := below do
   let (isFit, hit) <- withConstrs constrs (below (assign goal val.ty {retainLits := true}))
   if !isFit then
    note "tdFieldTyBad" [printTy val.ty, shown]
    locate span
   pure (isFit, hit)
  match ents.known.lookup name, ents.extra with
  | some ent, _ =>
   let (isFit, hit) <- tryVal ent.valTy name constrs
   constrs := hit
   fits := fits && isFit
   if !ent.isReq then
    narrowed := setEnt narrowed name {valTy := val.ty, isReadOnly := val.isReadOnly, isReq := false, isProvided := true}
   provided := name :: provided
  | none, some extra =>
   let (isFit, hit) <- tryVal extra.valTy "extra_items" constrs
   constrs := hit
   fits := fits && isFit
  | none, none =>
   fits := false
   below do
    note "tdFieldUndef" [name, printTy ty.clsInst]
    locate span
 if !fits then return none
 for (name, ent) in ents.known do
  if ent.isReq && !provided.contains name then
   note "tdFieldReq" [name, printTy ty]
   fits := false
 if !fits then return none
 let hit <- if let some solved := constrs then solve generic solved else pure ty
 return if narrowed.isEmpty then hit else hit.withCls ({· with narrowedEnts := some narrowed})

def narrowForKey (u : Univ) (ty : Ty) (key : String) : Ty :=
 if let some ent := (u.info ty).typedEnts.bind (·.known.lookup key) then
  let narrowed := ty.cls.narrowedEnts.getD []
  if !(u.flags ty).tdict || ent.isReq || (narrowed.lookup key).any (·.isProvided) then ty
  else ty.withCls ({ · with narrowedEnts := (setEnt narrowed key
   {isProvided := true, isReq := false, isReadOnly := ent.isReadOnly, valTy := ent.valTy})})
 else ty

end TypeChecker.Infer
