import TypeChecker.Infer.Builtin

/-! Enumerations: which attributes of an enumeration are its members, the types of members with their names
and values, and enumerations that are made by a call. -/

namespace TypeChecker.Infer
variable [Evals] (node : Node)
def newCls (name : String) (flags : ClsFlags) (bases : Tys)
  (mcls : Ty?) (declMcls : Ty? := none) : Eval Ty := do
 let file <- fileOf node
 let fullName := (<- tree).qualifiedName node file.modName name
 let ty <- makeCls {id := 0, name, fullName, modName := file.modName, srcId := node.start}
  {flags, uri := .file file.path, bases, declMcls, metaTy := mcls}
 discard (computeMro ty)
 pure ty

variable (ty : Ty)
def isEnum := return ty.isCls && (<- flagsOf ty).enum
def isEnumMcls (u : Univ) (ty : Ty) := (u.mro ty).any (·.isBuiltIn ["EnumMeta", "EnumType"])

def enumMem (u : Univ) (owner ty : Ty) (name : String) (val : Ty) :=
 owner.clsInst.setLit <| some <| .enum
  {clsFullName := owner.clsFullName, clsName := owner.clsName, itemName := name
   itemTy := val, isReprEnum := (u.mro ty).any (·.isNamed "ReprEnum")}

structure MemSrc where
 (isMem isUnp : Bool := false)
 (val hint : Node? := none)

def memSrc (anc : Anc) (name : Node) (ignoreHint : Bool) : MemSrc :=
 if let some parent := anc.parent? name then
  match parent.kind with
  | .assignment lhs rhs _ _ => if lhs == name then {isMem := true, val := rhs} else {}
  | .tup .. =>
   if let some (.assignment _ rhs _ _) := anc.parentKind? parent then {isMem := true, isUnp := true, val := rhs}
   else {}
  | .annot val hint => if val == name then {isMem := ignoreHint, hint} else {}
  | _ => {}
 else {}

def enumMemTyIn : Nat -> Ty -> String -> Bool -> Eval Ty?
 | 0, _, _, _ => pure none
 | fuel + 1, ty, name, ignoreHint => do
  let key := (ty.cls.ref.id, name)
  if !(<- isEnum ty) || (<- get).enumMems.contains key then return none
  modify fun s => {s with enumMems := key :: s.enumMems}
  let res <- hit fuel ty name ignoreHint
  modify fun s => {s with enumMems := s.enumMems.drop 1}
  pure res
where
 hit (fuel : Nat) (ty : Ty) (name : String) (ignoreHint : Bool) : Eval Ty? := do
  let some mem <- clsMem? ty name | pure none
  if !(<- isEnum mem.clsTy) then return none
  let some decl := (<- declsOf mem.sym).head? | pure none
  let node := decl.node
  let nameNode? := match node.kind with
   | .name .. => some node
   | .fnDef parts | .clsDef parts => some parts.name
   | _ => none
  let some nameNode := nameNode? | pure none
  let src := memSrc (<- tree) nameNode ignoreHint
  if Name.isSingleDunder name || name == "name" || name == "value" then return none
  let declared <- src.hint.mapM (Evals.tyOfAnnot · {})
  let assigned <- src.val.mapM fun val => do
   let dotsToAny <- inStub val
   pure (<- tyOf val {dotsToAny}).ty
  if let some other := ((src.val.bind (·.nameVal?)).filter (· != name)) then
   if let some tgt <- enumMemTyIn fuel ty other false then
    if tgt.isObj && tgt.isOfSameCls mem.clsTy && tgt.hasLit then return tgt
  let (assigned, isMem) <- match node.kind with
   | .fnDef _ => pure (((<- Evals.tyOfFn node).map (·.decorated)).or assigned, src.isMem)
   | .clsDef _ =>
    let some res <- Evals.tyOfCls node | pure (assigned, src.isMem)
    let before <- (·.ver.isLessThan (.three 13)) <$> fileOf node
    pure (res.decorated, if res.decorated.isClsObj then before else src.isMem)
   | _ => pure (assigned, src.isMem)
  let val := (declared.or assigned).getD .unk
  let val <- if src.isUnp then pure ((<- Evals.iterated val false nameNode false).elim .unk (·.ty)) else pure val
  if val.isObj && (<- fieldsOf val).contains "__get__" then return none
  if Name.isPrivate name || val.subtys.all (·.isRoutine) then return none
  let arg ty := ty.tyArgs.head?.getD .unk
  match assigned.map fun assigned => (assigned, assigned.isObj && assigned.cls.ref.isBuiltIn, assigned.clsFullName) with
  | some (assigned, true, "enum.nonmember") =>
   if let some declared := declared then if <- canAssign declared (arg assigned) then return declared
   return arg assigned
  | some (assigned, true, "enum.member") => return enumMem (<- univ) mem.clsTy ty name (arg assigned)
  | _ =>
   let u <- univ
   return if isMem then enumMem u mem.clsTy ty name val else none

variable (name : String)
def enumMemTy? (ignoreHint : Bool := false) := enumMemTyIn maxTyDepth ty name ignoreHint

def isEnumWithMems : Ask := do
 if !(<- isEnum ty) then return false
 (<- fieldsOf ty).ents.toList.anyM fun (name, _) =>
  return (<- enumMemTy? ty name).any fun mem => mem.isObj && mem.isOfSameCls ty

def litsOf? : Eval (Option Tys) := do
 if ty.isNamed "bool" then return some [ty.setLit (some (.bool true)), ty.setLit (some (.bool false))]
 if !(<- isEnum ty) then return none
 if (<- infoOf ty).bases.any (·.isNamed "Flag") then return none
 let mems <- (<- fieldsOf ty).ents.toList.filterMapM fun (name, sym) => do
  if (<- symFlags sym).noProto then return none
  let plain <- effTy sym
  let mem := (<- enumMemTy? ty name).getD plain
  return if mem.isObj && ty.sameCls mem && mem.hasLit then some mem else none
 pure mems

def declEnumVal? (declOnly : Bool := false) : Eval Ty? := do
 let some mem <- clsMem? ty "_value_" {declOnly} | pure none
 if mem.clsTy.isCls && !mem.clsTy.isNamed "Enum" then some <$> tyOfMem mem else pure none

def tyOfEnumMem? (draft : Bool) : Eval Typed? := do
 if !(<- isEnum ty) then return none
 if let some ty <- enumMemTy? ty name then return some {ty, draft}
 if ty.isInsta then return none
 let mems := do
  let tys <- if ty.hasLit then pure [ty] else pure ((<- litsOf? ty).getD [])
  return tys.filterMap fun ty => if let some (.enum mem) := ty.lit? then some mem else none
 let isCustom (mem : Option ClsMem) := mem.any fun mem => mem.clsTy.isCls && !mem.clsTy.cls.ref.isBuiltIn
 if name == "name" || name == "_name_" then
  let mem <- clsMem? ty name
  if mem.any fun mem => mem.clsTy.isCls && !mem.clsTy.isNamed "Enum" then return none
  let str <- builtinTy node "str"
  if !str.isClsObj then return none
  let mems <- mems
  if mems.isEmpty then return none
  return some { draft, ty := .combine (mems.map fun mem =>
   str.clsInst.setLit (some (.text (.ofString mem.itemName))))}
 if name == "value" || name == "_value_" then
  let declared <- declEnumVal? ty
  if isCustom (<- clsMem? ty name) then return none
  let fallback := some {ty := declared.getD .any, draft}
  if (<- infoOf ty).metaTy.any fun mcls => mcls.isCls && !mcls.cls.ref.isBuiltIn then return fallback
  if isCustom (<- clsMem? ty "__new__" {skipObjBase := true}) then return fallback
  if isCustom (<- clsMem? ty "__init__" {skipObjBase := true}) then return fallback
  let mems <- mems
  if mems.isEmpty then return none
  let val := .combine (mems.map (·.itemTy))
  return if ty.hasLit && val.isAny then declared.map ({ty := ·, draft}) else some {ty := val, draft}
 pure none

def autoEnumVal : Eval Ty := do
 if let some clsNode := (<- tree).enclCls? node then
  if let some res <- Evals.tyOfCls clsNode then
   let hit <- Match.plain (Evals.boundMem node res.clsTy.clsInst "_generate_next_value_" {} {} none 0)
   if let some mem := hit then
    if !mem.tyErrs && mem.ty.isFn && mem.clsTy.any fun owner => owner.isCls && !owner.isNamed "Enum" then
     if let some declared := mem.ty.fn.declRet then return declared
 builtinObj node "int"

def enumNames? (text : String) : Option Strings :=
 let parts := (text.splitToList isBlankChar).filter (· != "")
 if parts.head?.all (·.startsWith ",") || parts.getLast?.all (·.endsWith ",") then none
 else (parts.flatMap (·.splitToList (· == ','))).filter (· != "")

def enumOfCall? (base : Ty) (args : List Arg) : Eval Ty? := do
 let some nameText := (args.head?.filter (·.cat == .simple)).bind (·.val) |>.bind Node.singleStr?
  | pure none
 let u <- univ
 let ty <- newCls node nameText.toString {enum := true, validTyAlias := true} [base] (u.info base).metaTy
 addField ty "__class__" {clsMem := true, noProto := true} ty
 let some init := (args[1]?.filter (·.cat == .simple)).bind (·.val) | pure none
 let int <- builtinTy node "int"
 if !int.isClsObj then return none
 let numbered (idx : Nat) := int.clsInst.setLit (some (.ofInt (idx + 1)))
 let ents : Option (ByName (Eval Ty)) := match init.kind with
  | .strList .. =>
   if (init.strings?.getD []).any (·.isFormatStr) then none
   else (enumNames? init.stringsVal.toString).map (·.zipIdx.map fun (name, idx) => (name, pure (numbered idx)))
  | .list items | .tup items _ =>
   let isPlain := items.head?.any (·.strings?.isSome)
   if items.isEmpty then none else items.zipIdx.mapM fun (item, idx) =>
    match item.kind, isPlain with
    | .strList .., true => (item.singleStr?).map fun name => (name.toString, pure (numbered idx))
    | .tup [name, val] _, false => (name.singleStr?).map fun name => (name.toString, (·.ty) <$> tyOf val)
    | _, _ => none
  | .dict items _ =>
   if items.isEmpty then none else items.mapM fun item => if let .dictKeyEnt key val := item.kind then
     (key.singleStr?).map fun name => (name.toString, (·.ty) <$> tyOf val)
    else none
  | _ => some []
 let some ents := ents | pure none
 for (name, val) in ents do addField ty name {clsMem := true} (enumMem (<- univ) ty base name (<- val))
 pure ty

end TypeChecker.Infer
