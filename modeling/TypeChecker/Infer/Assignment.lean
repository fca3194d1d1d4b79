import TypeChecker.Infer.Alias
import TypeChecker.Infer.Index

/-! Assignment: what a target accepts, and what it holds afterwards. -/

namespace TypeChecker

def Decl.nameNode? (decl : Decl) : Node? := match decl.node.kind with
 | .importAs mod asName => match asName, mod.kind with
  | some name, _ => name
  | none, .modName _ parts _ => parts.head?
  | _, _ => none
 | .importFromAs name asName => asName.getD name
 | .importFrom parts => if let .modName _ parts _ := parts.modName.kind then parts.head? else none
 | .clsDef parts | .fnDef parts | .par parts => parts.name
 | .tyPar name .. | .tyAlias _ name .. => name
 | .name .. => decl.node
 | _ => none

namespace Infer
variable [Evals]
structure DeclMem where
 sym : SymId? := none
 (base owner : Ty? := none)
 usesSetter := false
 binds := true

def declMem (base : Ty) (name : String) (hit : DeclMem) : Eval DeclMem := do
 if base.isObj then
  let mem <- objMem? base name {declOnly := true}
  return {base, owner := mem.map (·.clsTy), sym := mem.map (·.sym), usesSetter := true, binds := !mem.any (·.isInstMem)}
 if base.isClsObj then
  let mem <- clsMem? base name {skipInstMems := true, declOnly := true}
  return {base, owner := mem.map (·.clsTy), sym := mem.map (·.sym)}
 if base.isMod then
  let sym <- if let some sym <- modField? base name then if <- hasTypedDecls sym then pure (some sym) else pure none
   else pure none
  return {sym, binds := false}
 pure hit

def declTyIn (usage : Usage) : Nat -> Node -> Eval Ty?
 | 0, _ => pure none
 | fuel + 1, node => do
  let mut hit := {}
  let mut self := none
  match node.kind with
  | .name name _ =>
   if let some sym <- lookUpName node name true then
    hit := {hit with sym := sym.sym}
    if (<- declTy? sym.sym node).isNone && ((<- get).scopes.scope sym.scope).kind == .clsDef then
     if let some clsNode := ((<- tree).enclClsOrFn? node).filter (·.isCls) then
      if let some res <- Evals.tyOfCls clsNode then
       if let some mem <- clsMem? res.clsTy name {skipInstMems := true, declOnly := true} then
        hit := {hit with sym := mem.sym}
  | .annot val _ => return <- declTyIn usage fuel val
  | .memAccess lhs mem =>
   let base := (<- tyOf lhs .base).ty
   let obj <- firm base
   for part in (<- univ).sortTys obj.subtys do hit <- declMem part mem.nameVal hit
   if base.isTyVar then self := base
  | .idx lhs items trailComma =>
   let base <- firm (<- tyOf lhs .base).ty
   if base.isObj then
    if (<- flagsOf base).tdict then
     if let some item <- tdictItem? node items trailComma base usage then return item.ty
    let some setter <- (magicMeth? base "__setitem__").plain | return none
    let takesSlice := items.length == 1 && items.any (·.argVal.kind matches .slice ..)
    let setter := if !setter.isOvld then some setter else setter.ovls.find? fun ovl =>
     ovl.fn.pars.length >= 2 && takesSlice == ((ovl.parTy 0).isObj && (ovl.parTy 0).isNamed "slice")
    if let some setter := setter then
     if setter.isFn && setter.fn.pars.length >= 2 && !(setter.parTy 1).isAnyLike then return setter.parTy 1
  | .tup items _ =>
   if !items.isEmpty && !items.any (·.kind matches .unpack ..) then
    let tys <- items.mapM (declTyIn usage fuel)
    if let some tys := tys.mapM id then return <- tupObj (tys.map ({ty := ·}))
  | _ => pure ()
  let some sym := hit.sym | pure none
  let some ty <- declTy? sym | pure none
  let mut ty := ty
  if hit.usesSetter && ty.isObj then
   if let some setter <- (magicMeth? ty "__set__").plain then
    if setter.isFn && setter.fn.pars.length >= 2 then
     ty := setter.parTy 1
     if ty.isAnyLike then return none
  let some base := hit.base | pure ty
  if let some owner := hit.owner.filter (·.isClsObj) then ty := (<- univ).partlySpec ty owner (<- tyCls?) self
  if ty.isRoutine && hit.binds then return <- (bindMeth base ty none false self).plain
  pure ty

variable (node : Node)
def declTyOfExpr? := declTyIn {meth := .set} Node.maxHeight node

variable (tgt : Node) (res : Typed)
def assignToName (ignoreEmpty : Bool) (src : Node?) (allowFinal : Bool)
  (wantDiag : Adden?) : Act := do
 let name := tgt.nameVal
 let some hit <- lookUpName tgt name false | return
 let decls <- declsOf hit.sym
 let mut declared <- declTy? hit.sym
 if declared.isNone && ((<- get).scopes.scope hit.scope).kind == .clsDef then
  if let some clsNode := (<- tree).enclCls? tgt then
   if let some owner <- Evals.tyOfCls clsNode then
    if let some mem <- clsMem? owner.clsTy name {skipOrigCls := true} then
     if mem.isTyDecl then declared := (<- tyOfMem mem)
 let mut ty := res.ty
 if let some goal := declared.filter fun ty => !(ty.isObjOf "TypeAlias") then
  let live <- tyVarScopes tgt
  let u <- univ
  let (fits, notes) <- (assign (u.bindVarsOf live goal) (u.bindVarsOf live ty)).explained
  if fits then ty := (<- narrowAssigned goal res).ty
  else
   let notes := wantDiag.getD notes
   if !res.draft then
    let (source, dest) <- printPair ty goal
    let place := src.getD tgt
    flag .assignmentTy "tyBad" place [source, dest] notes (notes.effSpan.getD place)
   ty := goal
 else if (<- scopeKindOf? tgt) == some .clsDef && ty.isInst && !Name.isConstant name && !decls.any isFinalDecl then
  ty := (<- stripLit ty).stripTyForm
 if let some idx := decls.findIdx? (·.asVar?.isSome) then
  if let some decl := decls[idx]? then
   if decl.asVar?.any (·.isConstant) then
    if decls.head?.bind (·.nameNode?) != tgt || (decls.drop (idx + 1)).any (·.asVar?.isNone) then
     flag .constantRedefinition "constantAgain" tgt [name]
   else if isFinalDecl decl && !allowFinal then blame "finalReset" tgt [name]
 if !res.draft then reportUnk .unkVarTy tgt res.ty tgt ignoreEmpty
 writeTy tgt {ty, draft := res.draft}

def assignToOwnMem (mem : Node) (owner : Ty) (res : Typed) (isInst : Bool) (src : Node) : Act := do
 let name := mem.nameVal
 let mut res := res
 if let some hit <- clsMem? owner name {skipInstMems := !isInst} then
  let isOwn := hit.clsTy.isClsObj && owner.sameCls hit.clsTy
  let u <- univ
  if isOwn && isInst then
   if let some slots := u.slots? hit.clsTy then
    let info := u.info hit.clsTy
    if (info.localSlots != some [] || info.flags.final) && !slots.contains name then
     let mayBeDescr <- if let some other <- clsMem? hit.clsTy name {skipInstMems := true} then do
       let ty <- effTy other.sym
       pure (ty.isAnyLike || ty.isUnbound) <||> isMaybeDescr ty
      else pure false
     if !mayBeDescr then blame "slotsAttrError" mem [name]
  if isOwn && hit.isInstMem == isInst then
   if let some sym := (u.info owner).fields.get? name then
    if let some first := (<- declsOf sym).head? then
     if first.asVar?.any (·.isConstant) && first.node != mem then
      flag .constantRedefinition "constantAgain" mem [name]
  else if let some declared <- declTy? hit.sym then
   if !(<- univ).isProp declared && !hit.isInstMem && isInst then
    markRead hit.sym mem
    res := {res with ty := .combine [res.ty, <- tyOfMem hit]}
 if (<- clsMem? owner name {declOnly := true}).isNone && !res.draft then
  let _ := src
  reportUnk .unkMemTy mem res.ty node true

def assignToMem (lhs mem : Node) (res : Typed) (src : Node) (wantDiag : Adden?) : Act := do
 let base <- tyOf lhs .base
 let obj <- firm base.ty
 let mut owner : Ty? := none
 if lhs.isName then
  if let some clsNode := (<- tree).enclCls? tgt then
   if let some hit <- Evals.tyOfCls clsNode then
    let ty := hit.clsTy
    owner := ty
    if obj.isCls && obj.isOfSameCls ty && (obj.isObj || obj.isClsObj) then
     assignToOwnMem tgt mem ty res obj.isObj src
    let info <- infoOf ty
    if info.flags.proto then
     if let some sym := info.fields.get? mem.nameVal then
      let anc <- tree
      if (<- declsOf sym).all fun decl => (anc.enclFn? decl.node).isSome then blame "putInProto" mem
 let set <- accessAttr tgt base {meth := .set, setTy := res, setWantDiag := wantDiag}
 if set.isAsymAccessor && !(<- isSpecul tgt) then modify fun s => {s with uneven := s.uneven.insert tgt.id}
 let cached := {ty := set.narrowedForSet.getD res.ty, draft := res.draft, accessDepr := set.accessDepr}
 writeTy tgt cached
 writeTy mem {cached with ty := (<- univ).freeVarsOf (owner.bind (·.cls.ref.scopeId)).toList cached.ty}

def assignToEnts (tgts : Nodes) (isList : Bool) (res : Typed) (src : Node) : Act := do
 let ty <- firm res.ty
 let count := tgts.length
 let star := tgts.findIdx? (·.kind matches .unpack ..)
 let mut dealt := Array.replicate count []
 let mut notes := Adden.empty
 for part in ty.subtys do
  if let some args := ((<- univ).specdTup? part).bind (·.tupArgs?) then
   let mut ents := args.map (·.ty.addConds part.ownConds {skipSelf := true})
   if let some open_ := args.findIdx? (·.isUnb) then
    ents := Tup.repeatAt ents open_ count (ents[open_]?.getD .any)
    if ents.length > count then ents := ents.eraseIdx open_
   if let some star := star then
    if ents.length > count then
     let extra := ents.length - count + 1
     let joined := .combine ((ents.drop star).take extra)
     ents := Tup.splice ents star extra [<- if isList then stripLit joined else pure joined]
    else if ents.length + 1 == count then ents := Tup.splice ents star 0 [.never]
   dealt := dealt.mapIdx fun idx tys => tys ++ ents[idx]?.toList
   if ents.length != count then
    let shown <- printTy part
    let (goal, got) := (toString (if star.isSome then count - 1 else count), ents.length.repr)
    let size := if star.isSome then say "tupSizeBadOpenDest" [goal, got] else say "tupSizeBad" [goal, got]
    notes := notes.addChild ((Adden.ofMsg (if isList then say "listBadNote" [shown]
     else say "tupBadNote" [shown])).addChild (.ofMsg size))
  else
   let ent := (<- iteratedTy {ty := part, draft := res.draft} false src).addConds part.ownConds
   dealt := dealt.map (· ++ [ent])
 if !notes.isEmpty then
  let shown <- printTy ty
  report .assignmentTy ((if isList then say "listBad" [shown] else say "tupBad" [shown]) ++ notes.print) tgt
 for (item, tys) in tgts.zip dealt.toList do
  Evals.assignToExpr item {ty := if tys.isEmpty then .unk else .combine tys, draft := res.draft} src true false
 writeTy tgt {res with ty}

def isFieldList (clsNode : Node) := do
 let some res <- Evals.tyOfCls clsNode | pure false
 let info <- infoOf res.clsTy
 return info.flags.tdict || info.namedTupEnts.isSome

def hintOpts : Eval ExpectOpts := do
 let anc <- tree
 let isField <- (anc.enclCls? tgt true).mapM isFieldList
 return {varTyAnnot := true, allowFinal := isField != true && anc.isFinalAllowed tgt
         allowClsVar := isField == false}

def touchQuietly (node : Node?) : Act := do if let some node := node then let _ <- muting node false (tyOf node)

def assignIn : Nat -> Node -> Typed -> Node -> Bool -> Bool -> Adden? -> Act
 | 0, _, _, _, _, _, _ => return
 | fuel + 1, tgt, res, src, ignoreEmpty, allowFinal, wantDiag => do
  if res.ty.isTyVar then
   if let .call lhs .. := src.kind then
    let callee := (<- tyOf lhs .base).ty
    if callee.isClsObj && callee.isBuiltIn ["TypeVar", "TypeVarTuple", "ParamSpec"] then
     let named := match tgt.kind with | .annot val _ => val | _ => tgt
     if named.nameVal? != some res.ty.shared.name then
      let name := res.ty.var.readableName
      report .general (if res.ty.isSigVar then say "sigSetName" [name] else say "tyVarSetName" [name]) named
  let res := if res.ty.subtys.any (·.isUnbound) then {res with ty := res.ty.removeUnbound} else res
  match tgt.kind with
  | .name .. => assignToName tgt res ignoreEmpty src allowFinal wantDiag
  | .memAccess lhs mem => assignToMem tgt lhs mem res src wantDiag
  | .idx lhs .. =>
   let _ <- idxWithBase tgt (<- tyOf lhs .base) {meth := .set, setTy := res, setWantDiag := wantDiag}
   writeTy tgt res
  | .list items => assignToEnts tgt items true res src
  | .tup items _ => assignToEnts tgt items false res src
  | .annot val hint =>
   let _ <- Evals.tyOfAnnot hint (<- hintOpts val)
   assignIn fuel val res src ignoreEmpty allowFinal wantDiag
  | .unpack _ expr =>
   assignIn fuel expr {ty := <- builtinObj expr "list" [res.ty], draft := res.draft} src ignoreEmpty allowFinal wantDiag
  | .error _ child _ => touchQuietly child
  | _ => blame "putTgtExpr" tgt

def assignToExpr (src : Node) (ignoreEmpty allowFinal : Bool) (wantDiag : Adden? := none) :=
 assignIn Node.maxHeight tgt res src ignoreEmpty allowFinal wantDiag

def evalAssign (lhs rhs : Node) : Act := do
 if <- isTyCached node then return
 let file <- fileOf node
 let mut flags := {dotsToAny := file.isStub, noSpec := rhs.kind matches .name .. | .memAccess ..}
 let mut known <- cachedTy? rhs
 if known.isNone && (file.isTypingStub || file.isTypingExtensionsStub) then
  known <- assignedSpec? node lhs rhs
  if let some ty := known then writeTy rhs ty
 if let some ty := known then
  assignToExpr lhs ty rhs true true
  writeTy node ty
  return
 let mut nameNode := none
 let mut isTentative := false
 if <- isDeclAlias lhs then
  flags := explicitAliasFlags
  nameNode := match lhs.kind with | .annot val _ => some val | _ => none
  if !isAliasForm rhs true then badForm "tyAliasBadExprForm" rhs
 else if let some name := lhs.nameVal? then
  if let some hit <- lookUpName lhs name false then
   if let [decl] := <- declsOf hit.sym then
    if <- mayBeAlias decl then
     nameNode := lhs
     isTentative := true
     flags := {flags with keepSpec := true}
    else if <- makesTdict decl then nameNode := lhs
 let hole <- nameNode.mapM (aliasBlank · false)
 if let some (ty, _) := hole then
  writeTy node ty
  writeTy lhs ty
  if let .annot val _ := lhs.kind then writeTy val ty
 let mut declared <- declTyOfExpr? lhs
 if let some ty := declared then declared <- boundAt node ty
 let source <- tyOf rhs flags (Want.make declared)
 let mut ty := source.ty
 match nameNode, hole with
 | some name, some (holder, ref) =>
  if !isTentative || isAutoAliasTy ty then ty <- bindAlias holder ref (<- nameAlias ty name ref false) rhs
  else if let some val := (<- staticFacts node).val? rhs then ty <- boolLit ty val
 | _, _ => if let some val := (<- staticFacts node).val? rhs then ty <- boolLit ty val
 assignToExpr lhs {ty, draft := source.draft} rhs true true source.wantDiag
 writeTy node {ty, draft := source.draft}
where
 boolLit (ty : Ty) (val : Bool) : Eval Ty := do
  let bool <- builtinObj node "bool"
  return if bool.isObj then bool.setLit (some (.bool val)) else ty

def checkRaised (allowNone : Bool) : Act := do
 let base <- builtinTy node "BaseException"
 let ty := (<- tyOf node).ty
 if !base.isClsObj then return
 let mut notes := .empty
 for part in ty.subtys do
  let obj <- firm part
  if obj.isAnyLike || obj.isNever || (allowNone && obj.isNoneInst) then continue
  let derives := obj.isCls && (<- univ).derivesFromCls (if obj.isObj then obj.clsObj else obj) base false
  if obj.isClsObj && obj.lit?.isNone && derives then
   let (call, _) <- muting node false (Evals.checkCall node [] obj none {} 0)
   if call.1.argErrs then notes := notes.say "excTyNoInst" [<- printTy part]
  else if !(obj.isObj && derives) then notes := notes.say "excTyIncorrect" [<- printTy part]
 if !notes.isEmpty then blame "wantExcCls" node [] notes

def deleteIn : Nat -> Node -> Act
 | 0, _ => return
 | fuel + 1, node => match node.kind with
  | .name .. => do let _ <- tyOf node
  | .memAccess lhs mem => do
   let res <- accessAttr node (<- tyOf lhs .base) {meth := .del}
   let cached := {ty := res.ty, accessDepr := res.accessDepr}
   writeTy mem cached
   writeTy node cached
  | .idx lhs .. => do
   let _ <- idxWithBase node (<- tyOf lhs .base) {meth := .del}
   writeTy node Ty.unbound
  | .tup items _ => items.forM (deleteIn fuel)
  | .error _ child _ => touchQuietly child
  | _ => blame "delTgtExpr" node

def delete := deleteIn Node.maxHeight node

end Infer
end TypeChecker
