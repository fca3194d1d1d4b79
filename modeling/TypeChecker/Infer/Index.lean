import TypeChecker.Infer.SpecialForm
import TypeChecker.Infer.TypedDict.Methods

/-! Calls of methods with special names, iteration, awaiting, and subscripts: of objects, of tuples and typed
dictionaries, whose entries are known one by one, and of classes, which take type arguments. -/

namespace TypeChecker.Infer
open Match
variable [Evals]
structure MemCalls where
 (draft failed : Bool := false)
 depr : Option MagicDepr := none
 ovls : Tys := []

def magicCall (ty : Ty) (name : String) (args : List Typed) (site : Node)
  (want : Want? := none) : Match Typed? := do
 let args := args.map fun res => {res}
 let call mem := do
  let obj <- firm mem
  let meth <- if obj.isCls then magicMeth? obj name mem site else pure none
  let some meth := meth
   | modify ({· with failed := true}) return none
  let attempt want := return (<- trying site (Evals.checkCall site args meth none {skipUnkCheck := true, want} 0)).1
  let mut res <- attempt want
  if res.argErrs && want.isSome then res <- attempt none
  let called := res
  if called.argErrs then modify ({· with failed := true})
  else
   for ovl in called.ovlsUsed do
    modify fun s => {s with
     ovls := s.ovls ++ [ovl]
     depr := if let some msg := ovl.fn.depr then
       if obj.isCls && !msg.isEmpty then some {clsName := obj.clsName, methName := name, msg} else s.depr
      else s.depr}
  if called.draft then modify ({· with draft := true})
  pure called.retTy
 let (hit, calls) <- .run (s := ({} : MemCalls)) (ty.mapM fun mem => do
  if mem.isAnyLike then return mem
  else if mem.isCls || mem.isTyVar then call mem
  else
   modify ({· with failed := true})
   return none)
 if calls.failed then return none
 return some {ty := hit, draft := calls.draft, magicDepr := calls.depr, ovlsUsed := calls.ovls}

def plainMagicCall (ty : Ty) (name : String) (args : List Typed) (site : Node) (want : Want?) :=
 plain (magicCall ty name args site want)

variable (res : Typed)
def awaited (site : Node?) : Eval Typed := do
 let some awaitable <- clsOf? (·.awaitableCls) | pure {ty := .unk, draft := res.draft}
 let proto := awaitable.clsInst
 let ty <- res.ty.mapM fun mem => do
  let mem <- firm mem
  if mem.isAnyLike then return mem
  let mut notes := .empty
  if mem.isObj then
   let (fits, constrs, why) <- constrainedExplained (some {}) (assign proto mem)
   if fits then return (<- solve proto (constrs.getD {})).tyArgs.head?.or (some .unk)
   notes := why
  if let (some node, false) := (site, res.draft) then blame "tyNotAwaitable" node [<- printTy mem] notes
  return some .unk
 pure {ty, draft := res.draft}

variable (isAsync : Bool) (site : Node) (reports : Bool := true)
def iterated : Eval Typed? := do
 let ty := (<- firm ((<- univ).unrollAlias res.ty)).removeUnbound
 let isNullable := ty.isOpt && reports
 if isNullable && !res.draft then flag .optIterable "noneNoIter" site
 let ty := if isNullable then ty.removeNone else ty
 let iter := if isAsync then "__aiter__" else "__iter__"
 let next := if isAsync then "__anext__" else "__next__"
 let (hit, calls) <- .run (s := ({draft := res.draft} : MemCalls)) (ty.mapM fun mem => do
  let mem <- firm mem
  if mem.isAnyLike then return mem
  let mut notes := .empty
  if mem.isCls then
   if mem.isInst && mem.isTup && mem.tupArgs? matches some [] then return some .never
   match <- plainMagicCall mem iter [] site none with
   | none =>
    if !isAsync && mem.isObj then
     let int <- instOf (·.intCls)
     if let some hit <- plainMagicCall mem "__getitem__" [int] site none then return hit.ty
    notes := notes.say "methNotDefined" [iter]
   | some iterator =>
    let (yielded, below, draft) <- (StateT.run (s := (.empty, false))
     (mapExpanded iterator.ty fun part _ _ => do
      if part.isAnyLike then return part
      match <- plainMagicCall part next [] site none with
      | none =>
       let text <- printTy part
       modify fun (notes, draft) => (notes.say "methNotDefinedOnTy" [next, text], draft)
       pure none
      | some step =>
       let obj <- objTy
       let item := step.ty.map fun part => if part.isUnpTupVar then obj else part
       if !isAsync then return item
       let item <- awaited {ty := item, draft := res.draft} site
       if item.draft then modify fun (notes, _) => (notes, true)
       return item.ty))
    if draft then modify ({· with draft := true})
    if below.isEmpty then return yielded
    notes := notes.addChild below
  if !(<- get).draft && reports then blame "tyNoIter" site [<- printTy mem] notes
  modify ({· with failed := true})
  return none)
 return if calls.failed then none else some {ty := hit, draft := calls.draft}

def iterOf : Eval Typed? := do
 let ty <- firm res.ty
 if ty.isOpt && !res.draft then flag .optIterable "noneNoIter" site
 let (hit, failed) <- .run (s := false) (ty.removeNone.mapM fun mem => do
  if mem.isAnyLike then return mem
  if mem.isCls then
   if let some iterator <- plainMagicCall mem (if isAsync then "__aiter__" else "__iter__") [] site none then
    return <- firm iterator.ty
  blame "tyNoIter" site [<- printTy mem]
  set true
  return none)
 return if failed then none else some {ty := hit, draft := res.draft}

def iteratedTy : Eval Ty := do
 let some ent <- iterated res isAsync site reports | pure .unk
 pure ent.ty

def coroOf (node : Node) (ret : Ty) (isGen : Bool) (useCoro : Bool := true) : Eval Ty := do
 if ret.isObjIn [] && isGen then
  let name := ret.clsName
  if name == "Generator" then
   if let some gen <- typingTy? node "AsyncGenerator" then
    if gen.isClsObj then return (gen.spec (ret.tyArgs.take 2)).clsInst
  else if ["AsyncIterator", "AsyncIterable", "AsyncGenerator"].contains name then return ret
 if let some awaitable <- if useCoro then tysTy? node "CoroutineType" else typingTy? node "Awaitable" then
  if !awaitable.isClsObj then return .unk
  pure (awaitable.spec (if useCoro then [.any, .any, ret] else [ret])).clsInst
 else pure .unk

def tdictItem (node key : Node) (base : Ty) (usage : Usage) : Eval Typed := do
 let ents <- typedEnts base (usage.meth == .get)
 let idx <- tyOf key
 let shown <- printTy base
 let mut notes := .empty
 let mut onlyOpt := true
 let mut hit := #[]
 for part in idx.ty.subtys do
  if part.isAnyLike then hit := hit.push (some part)
  else if !(part.isObjOf "str") then
   notes := notes.say "tyNotStrLit" [<- printTy part]
   onlyOpt := false
   hit := hit.push (some .unk)
  else
   let some (.text text) := part.lit? | hit := hit.push (some .unk)
   let name := text.toString
   match ((ents.known.lookup name).or ents.extra).filter (!·.valTy.isNever) with
   | none =>
    notes := notes.say "keyUndef" [name, shown]
    onlyOpt := false
    hit := hit.push (some .unk)
   | some ent =>
    if !(ent.isReq || ent.isProvided) && usage.meth == .get then notes := notes.say "keyOpt" [name, shown]
    else if ent.isReadOnly && usage.meth != .get then notes := notes.say "keyReadOnly" [name, shown]
    if usage.meth == .set then
     let (fits, own) <- explained (assign ent.valTy (usage.setTy.elim .any (·.ty)))
     if !fits then onlyOpt := false
     notes := own.kids.foldl .addChild (own.msgs.foldl .addMsg notes)
    else if usage.meth == .del && ent.isReq then
     notes := notes.say "keyReqDel" [name]
     onlyOpt := false
    hit := hit.push ent.valTy
 if !notes.isEmpty then
  let shownNotes := (usage.setWantDiag.filter (!·.isEmpty)).getD notes
  let msg := match usage.meth with
   | .get => say "tdRead"
   | .set => say "tdSet"
   | .del => say "tdDel"
  report (if onlyOpt then .tdictNotRequiredAccess else .general) (msg ++ shownNotes.print) node
 pure {ty := idx.ty.remapped idx.ty.subtys hit.toList {}, draft := idx.draft}

variable (node : Node)
def tdictItem? (items : Nodes) (trailComma : Bool) (base : Ty) (usage : Usage) : Eval Typed? := do
 if items.length != 1 then
  blame "tyArgsBadOne" node [items.length.repr]
  return some .unk
 (Node.plainSubscript? items trailComma).mapM (tdictItem node · base usage)

def sliceBound? : Node? -> Eval (Option Int?)
 | none => pure (some none)
 | some expr => do
  let ty := (<- tyOf expr).ty
  match ty.lit?, ty.isObjOf "int" with
  | some (.int val isBig), true =>
   if isBig && val < 0 then modify ({· with mixesNums := true})
   pure (some val)
  | _, _ => pure none

def tupPart? (key : Node) (idx base : Ty) : Eval Ty? := do
 let some tup := (<- univ).specdTup? base | pure none
 let some args := tup.tupArgs? | pure none
 if !idx.isObj then return none
 match idx.isNamed "int", idx.lit?, key.kind with
 | true, some (.int val false), _ =>
  if !tup.isTupIdxUnambiguous val then return none
  let place := if val < 0 then val + args.length else val
  return if place < 0 then none else args[place.toNat]?.map (·.ty)
 | false, _, .slice start stop none =>
  if !idx.isNamed "slice" then return none
  match <- sliceBound? start, <- sliceBound? stop with
  | some start, some stop => return Tup.sliced tup start stop
  | _, _ => pure none
 | _, _, _ => pure none

def itemMeth := AccessMeth.dunder "__getitem__" "__setitem__" "__delitem__"

def idxObj (base : Ty) (self : Ty?) (usage : Usage) : Eval Typed := do
 let .idx lhs items trailComma := node.kind | pure .unk
 let simple? := Node.plainSubscript? items trailComma
 if base.isObj && (<- flagsOf base).tdict then
  if let some item <- tdictItem? node items trailComma base usage then return item
 let name := itemMeth usage.meth
 let some meth <- plain (magicMeth? base name self lhs)
  | flag .idxIssue "methNotDefinedOnTy" lhs [name, <- printTy base] return .unk
 if let (some key, true) := (simple?, base.isObj) then
  if let some ty <- tupPart? key (<- tyOf key).ty base then return ty
 let parts := items.filterMap fun item => if let .arg cat name val := item.kind then some (item, cat, name, val)
  else none
 let places := parts.filter fun (_, cat, name, _) => cat == .simple && name.isNone
 let lists := parts.filter fun (_, cat, _, _) => cat == .unpList
 let idx <- match places, lists, trailComma with
  | [(_, _, _, val)], [], false =>
   let res <- tyOf val
   pure {ty := res.ty, draft := res.draft}
  | _, _, _ =>
   let mut draft := false
   let mut args := #[]
   for (_, _, _, val) in places do
    let res <- tyOf val
    draft := draft || res.draft
    args := args.push {ty := res.ty}
   for (_, _, _, val) in lists do
    let res <- tyOf val
    draft := draft || res.draft
    args := args.push {ty := (<- Evals.iterated res false val true).elim .unk (·.ty), isUnb := true}
   pure {ty := <- tupObj args.toList, draft}
 let val <- if let .set := usage.meth then do
   let given := usage.setTy.getD Ty.any
   let filter := if base.isObj then base.conds else []
   let ty <- if given.ty.isTyVar && given.ty.hasConstrs then
     firm given.ty (if filter.isEmpty then none else some filter)
    else pure given.ty
   pure [({res := some {ty, draft := given.draft}} : Arg)]
  else pure []
 let named := (parts.filter fun (_, cat, name, _) => cat == .simple && name.isSome)
  |>.map fun (item, _, name, val) => {node := item, name, val}
 let dicts := (parts.filter fun (_, cat, _, _) => cat == .unpDict)
  |>.map fun (item, cat, _, val) => {cat, node := item, val}
 let (res, _) <- Evals.checkCall node ({res := some idx} :: val ++ named ++ dicts) meth none {skipUnkCheck := true} 0
 pure {ty := res.retTy.getD .unk, draft := res.draft}

def idxCls (ty : Ty) (self : Ty?) (usage : Usage) (flags : EvalFlags) : Eval Typed := do
 let .idx lhs _ _ := node.kind | pure .unk
 let u <- univ
 let info := u.info ty
 let hasMcls := info.metaTy.any fun mcls => mcls.isClsObj && !mcls.isBuiltIn ["type", "_InitVarMeta"]
 if hasMcls && !flags.instaTy then
  let meth <- plain (magicMeth? ty (itemMeth usage.meth) none lhs)
  if flags.tyExpr then flag .invalidTyArgs "tyArgsWantNone" node [<- printTy ty.clsInst]
  if meth.isSome then return {ty := (<- idxObj node ty self usage).ty}
 match usage.meth with
 | .set => blame "genClsSet" lhs
 | .del => blame "genClsDel" lhs
 | .get => pure ()
 if u.isSpec ty && ty.cls.shownName == "Literal" then return <- createLit ty node flags
 if ty.isNamed "InitVar" then
  let args <- tyArgsOf node flags
  if flags.tyExpr && !flags.varTyAnnot then badForm "initVarBad" lhs
  let [arg] := args
   | badForm "tyArgsBadOne" lhs [args.length.repr] return .unk
  return arg.ty
 if info.flags.enum then return ty.clsInst
 let isAnnotated := ty.isNamed "Annotated"
 let custom := info.flags.customClsGetItem
 let isGeneric := !info.tyPars.isEmpty || u.isSpec ty || ty.isNamed "type" || info.flags.unfinished
 let args <- tyArgsOf node flags
  {isAnnotated, hasCustomGetItem := custom || !isGeneric, isFinal := ty.isNamed "Final"
   isClsVar := ty.isNamed "ClassVar"
   inlined? := if ty.isNamed "TypedDict" && (<- hasTyForms node) then inlineTdict? else none}
 if let some made := args.head?.bind (·.inlinedTdict) then
  if let some extra := args[1]? then
   flag .invalidTyArgs "tyArgsOver" (Typed.place extra node) [ty.cls.shownName, "1", args.length.repr]
  return made
 let args <- if isAnnotated then pure args else gatherMany args info.tyPars node
 if custom then return ty
 if ty.cls.tyArgs.isSome then
  flag .invalidTyArgs "clsTwice" lhs [<- printTy ty.toInst {expandAlias := true}]
  return ty
 specCls ty args flags node

def idxWithBase (base : Typed) (usage : Usage) (flags : EvalFlags := {}) : Eval Typed := do
 let .idx lhs items _ := node.kind | pure .unk
 if let some res <- specdAlias? node base.ty flags then return res
 let ty := if base.ty.isNever then base.ty.special?.getD base.ty else base.ty
 if let (true, some form) := (ty.isObjOf "TypeAliasType", ty.tyForm?) then
  if let some use := form.aliasUse? then
   let open_ := form.toInsta.setAliasUse (some {use with tyArgs := none})
   if let some res <- specdAlias? node open_ flags then return ty.setTyForm res.ty.toInst
 if let (true, some ref) := ((<- univ).isHole ty, ty.shared.recAlias) then
  return ty.setAliasUse (some {shared := ref, tyArgs := (<- tyArgsOf node flags).map (·.ty.toInst)})
 let res <- mapExpanded (m := StateT Typed Eval) ty (fun part whole _ => do
  let self := if whole.isTyVar then some whole else none
  if part.isAnyLike then
   if flags.tyExpr then discard (tyArgsOf node flags)
   return part
  if flags.instaTy && whole.isTyVar then
   blame "tyVarNoIdx" lhs [<- printTy whole]
   discard (tyArgsOf node flags)
   return some .unk
  let isOpen := (<- getThe Typed).draft
  if part.isClsObj then
   let hit <- idxCls node part self usage flags
   modifyThe Typed fun s => {s with
    isReq := s.isReq || hit.isReq
    isNotReq := s.isNotReq || hit.isNotReq
    isReadOnly := s.isReadOnly || hit.isReadOnly}
   return hit.ty
  if part.isNoneInst then
   if !isOpen then flag .optSubscript "noneNoIdx" lhs
   return some .unk
  if part.isObj then
   let hit <- idxObj node part self usage
   if hit.draft then modifyThe Typed ({· with draft := true})
   return hit.ty
  if part.isNever then return some .never
  if !part.isUnbound && !isOpen then flag .idxIssue "tyNoIdx" lhs [<- printTy part]
  return some .unk) |>.run {ty, draft := base.draft}
 if !base.draft then
  for item in items do
   let val := item.argVal
   if !(<- isTyCached val) then discard (tyOf val {fwdRefs := flags.fwdRefs})
 pure {res.2 with ty := res.1}

def subscriptableLate :=
 words "asyncio.futures.Future asyncio.tasks.Task builtins.dict builtins.frozenset builtins.list builtins._PathLike
builtins.set builtins.tuple collections.ChainMap collections.Counter collections.defaultdict
collections.DefaultDict collections.deque collections.OrderedDict queue.Queue"

def tyOfIdx (flags : EvalFlags) : Eval Typed := do
 let .idx lhs _ _ := node.kind | pure .unk
 let base <- tyOf lhs {flags with noSpec := true}
 if flags.instaTy then if let .strList .. := lhs.kind then flag .idxIssue "strNoIdx" lhs
 let file <- fileOf node
 if !flags.fwdRefs && !file.isStub && (!flags.varTyAnnot || (<- execScope? node).any (·.isMod)) then
  let ty := base.ty
  if ty.isClsObj && ty.cls.ref.isBuiltIn && ty.cls.aliasName.isNone then
   if subscriptableLate.contains ty.clsFullName && file.ver.isLessThan (.three 9) then
    flag .idxIssue "clsNoIdx" lhs [ty.cls.shownName]
 let mut res <- idxWithBase node base {} flags
 if node.isRef then
  let (_, narrows) <- mapExpanded (m := StateT Bool Eval) base.ty (fun part _ _ => do
   if !(part.isObj && (part.cls.ref.isBuiltIn || (<- flagsOf part).tdict)) then set false
   return none) |>.run !base.ty.isAny
  if narrows then
   writeTy node {res with draft := true}
   res <- narrowByFlow node res {ty := res.ty, draft := base.draft || res.draft} flags
 pure {res with draft := res.draft || base.draft}

end TypeChecker.Infer
