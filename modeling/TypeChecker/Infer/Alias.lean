import TypeChecker.Infer.Variable

/-! Type aliases: which assignments define one, the placeholder that stands for an alias inside its own
definition, and the parameters that an alias takes. -/

namespace TypeChecker.Infer
variable [Evals]
def isAliasFormIn : Nat -> Bool -> Node -> Bool
 | 0, _, _ => false
 | fuel + 1, allowsStr, node => match node.kind with
  | .error .. | .unary .. | .walrus .. | .annot .. | .await .. | .ternary ..
  | .unpack .. | .tup .. | .call .. | .compr .. | .slice .. | .yieldExpr .. | .yieldFrom ..
  | .lambda .. | .number .. | .dict .. | .list .. | .set .. => false
  | .strList .. | .string .. => allowsStr
  | .const kw => kw == .noneKw
  | .binary lhs _ op rhs _ => op == .bitwiseOr && isAliasFormIn fuel true lhs && isAliasFormIn fuel true rhs
  | .idx lhs .. | .memAccess lhs _ => isAliasFormIn fuel allowsStr lhs
  | _ => true

def isAliasForm (node : Node) (allowsStr : Bool) := isAliasFormIn Node.maxHeight allowsStr node

variable (decl : Decl)
def mayBeAlias := do
 let some data := decl.asVar? | pure false
 if data.tyAliasName.isNone || data.hint.isSome then return false
 let some (.assignment _ rhs _ _) <- parentKind? decl.node | pure false
 return isAliasForm rhs false

def makesTdict := do
 if decl.asVar?.isNone then return false
 let some parent <- parent? decl.node | pure false
 let .assignment _ rhs _ _ := parent.kind | pure false
 let .call lhs .. := rhs.kind | pure false
 let looksAlike := match lhs.kind with
  | .name name _ => name == "TypedDict"
  | .memAccess base mem => mem.nameVal == "TypedDict" && base.isName
  | _ => false
 if !looksAlike then return false
 let ty := (<- tyOf lhs .base).ty
 return ty.isClsOf "TypedDict"

def mayBeAliasOrTdict := do
 if <- mayBeAlias decl then return true
 makesTdict decl

def isExplicitAlias := do
 let some hint := decl.asVar?.bind (·.hint) | pure false
 if !(hint.kind matches .name .. | .memAccess .. | .strList ..) then return false
 let ty <- Evals.tyOfAnnot hint {varTyAnnot := true, allowClsVar := true}
 return ty.isObjOf "TypeAlias"

variable (node : Node)
def isDeclAlias := do
 let .annot val _ := node.kind | pure false
 let some name := val.nameVal? | pure false
 let some hit <- lookUpName node name false | pure false
 (<- declsOf hit.sym).anyM isExplicitAlias

def isAutoAliasTy (ty : Ty) :=
 if ty.isEllipsis then false
 else if ty.isUnk then ty.special?.any (·.isNamed "UnionType")
 else ty.subtys.all fun part => part.isInsta || part.isNoneInst

def changeAlias (id : Nat) (change : AliasInfo -> AliasInfo) : Act :=
 modify fun s => {s with catalog.aliases := s.catalog.aliases.modify id change}

def aliasBlank (nameNode : Node) (isTyAliasTy : Bool) : Eval (Ty × AliasRef) := do
 let file <- fileOf nameNode
 let name := nameNode.nameVal
 let scopeId := .ofNode nameNode
 let ref : AliasRef :=
  {id := (<- univ).aliases.size, name, fullName := (<- tree).qualifiedName nameNode file.modName name
   scopeId, isTyAliasTy}
 modify fun s => {s with catalog.aliases := s.catalog.aliases.push {}}
 let ty := Ty.ofVarName {id := <- freshVarId, name := s!"__type_alias_{name}", isSynth := true, recAlias := ref}
 pure (ty.withVar ({· with scopeId := scopeId}), ref)

def nameAlias (ty : Ty) (site : Node) (ref : AliasRef) (isSyntax : Bool) (parNodes : Nodes := []) : Eval Ty := do
 let u <- univ
 if u.isHole ty then return ty
 let pars := if let some pars := (u.aliasAt ref.id).tyPars then pars
  else (Univ.addUniqueVars [] (u.tyVarsOf ty)).filter (!·.shared.isSynth)
 let pars := pars.map fun par => if par.isInst then par else par.toInst
 checkBehindMany site parNodes pars
 checkParDflts site parNodes pars ref.scopeId
 let variadics := pars.filter (·.isTupVar)
 if variadics.length > 1 then badForm "manyTyParOverAlias" site [quotedVars variadics]
 if !ref.isTyAliasTy && !isSyntax then
  let outer := pars.filter fun par => par.var.scopeId != some ref.scopeId && par.var.owner == some .clsDef
  if !outer.isEmpty then badForm "genTyAliasBoundTyVar" site [commaList (outer.map (·.shared.name))]
 if !ty.isInsta then return ty
 changeAlias ref.id ({· with tyPars := if pars.isEmpty then none else pars})
 let named := ty.setAliasUse (some {shared := ref})
 let named <- if ref.isTyAliasTy || isSyntax then do
   let some runtime := (<- typingTy? site "TypeAliasType").filter (·.isClsObj) | pure named
   pure (named.setSpec runtime.clsInst)
  else pure named
 return if named.tyForm?.isSome then named.setTyForm none else named

def isAliasOfItself (u : Univ) (hole : Ty) (ref : AliasRef) (ty : Ty) :=
 let isSame ty := ty.isTyVar && ty.shared.id == hole.shared.id
 if ty.isUnion then ty.subtys.any isSame
 else (isSame ty && ty.aliasUse?.isNone) || (ty.isUnbound || u.isHole ty)
  && ty.aliasUse?.any (·.shared.name == ref.name)

def bindAlias (hole : Ty) (ref : AliasRef) (ty : Ty) (valNode : Node) : Eval Ty := do
 let isCyclic := isAliasOfItself (<- univ) hole ref ty
 if isCyclic then blame "tyAliasIsLoopDirect" valNode [ref.name]
 let ty := if isCyclic then .unk else ty
 changeAlias ref.id ({· with bound := ty})
 pure ty

def explicitAliasFlags : EvalFlags :=
 {instaTy := true, tyExpr := true, strLitAsTy := true, noParSpec := true, noTyVarTup := true, noClsVar := true}

def tyOfAlias (declNode nameNode valNode : Node) (isSyntax : Bool) (parNodes : Nodes)
  (tyPars : Eval (Option Tys)) : Eval Ty := do
 if let some ty <- cachedTy? nameNode then return ty
 let (hole, ref) <- aliasBlank nameNode true
 writeTy nameNode (.ofTy hole)
 if let some scope <- scopeOf? declNode then
  if let some hit := (<- get).scopes.lookUp? scope nameNode.nameVal then
   if let some decl := (<- bound? declNode).bind (·.nodeDecl[declNode.id]?) then setPartialTy hit.sym decl hole
 let pars <- tyPars
 changeAlias ref.id ({· with tyPars := (pars.getD [])})
 let res <- if isSyntax then Evals.tyWant valNode {fwdRefs := true, tyExpr := true} else tyOf valNode explicitAliasFlags
 let ty <- nameAlias res.ty nameNode ref true parNodes
 let ty <- bindAlias hole ref ty valNode
 writeTy nameNode {ty, draft := res.draft}
 pure ty

def tyOfTyAlias := do
 let .tyAlias _ name pars expr := node.kind | pure .unk
 let parNodes := if let some (.tyParList nodes) := Node.kindOf? pars then nodes else []
 tyOfAlias node name expr true parNodes (pars.mapM tyParList)

def createTyAlias (site : Node) (args : List Arg) : Eval Ty? := do
 let some parent <- parent? site | pure none
 let first :: rest := args | pure none
 if !(site.kind matches .call ..) || rest.isEmpty then return none
 let target? := if let .assignment lhs rhs _ _ := parent.kind then if rhs == site && lhs.isName then some lhs else none
  else none
 let some nameNode := target?
  | blame "tyAliasTyMustBeSet" site return none
 if let some kind <- scopeKindOf? site then
  if !(kind matches .clsDef | .mod | .builtin) then blame "tyAliasTyBadScope" nameNode
 if let some name := Arg.str? first then
  if name != nameNode.nameVal then blame "tyAliasTyNameBad" (Arg.place first site)
 else
  blame "tyAliasTyNameArg" (Arg.place first site)
  return none
 let mut val := none
 let mut parsExpr := none
 for (arg, idx) in rest.zipIdx do
  match arg.name.map (·.nameVal) with
  | some "type_params" => if parsExpr.isSome then return none else parsExpr := arg.val
  | some "value" => if val.isSome then return none else val := arg.val
  | some _ => return none
  | none => if idx == 0 then val := arg.val else return none
 let some valNode := val | pure none
 let mut tyPars := none
 if let some expr := parsExpr then
  let .tup items _ := expr.kind
   | blame "tyAliasTyParBad" expr return none
  let pars <- items.mapM fun item => do
   let ty := (<- tyOf item {instaTy := true, allowUnscopedVar := true}).ty
   if !ty.isTyVar || ty.var.scopeId.isSome || ty.isTupVar && ty.var.isUnp then return none
   return ty.setVarScope (.ofNode nameNode) nameNode.nameVal (some .tyAlias)
  tyPars := pars.mapM id
  if tyPars.isNone then
   blame "tyAliasTyParBad" expr
   return none
 some <$> tyOfAlias nameNode nameNode valNode false [] (pure tyPars)

end TypeChecker.Infer
