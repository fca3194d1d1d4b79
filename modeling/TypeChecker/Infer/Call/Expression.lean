import TypeChecker.Infer.Call.Validate

/-! Calls as expressions, among them those that ask what the type of something is. -/

namespace TypeChecker.Infer
variable [Evals]
def argVals (args : Nodes) : Nodes := args.map .argVal

def superTgt (lhs : Node) (args : Nodes) (fn : Node?) (own : Ty?) : Eval Ty := do
 match argVals args, own with
 | first :: _, _ =>
  let ty := (<- tyOf first).ty
  let hit <- firm ty
  if !hit.isAnyLike && !hit.isClsObj && !(<- univ).isMclsInst hit then
   flag .argumentTy "superArg1" first [<- printTy ty]
  pure ty
 | [], some own =>
  if let some fn := fn then
   if (<- Evals.decoFacts fn true).flags.staticMeth then blame "superZeroArgFormStaticMeth" lhs
  pure own
 | [], none =>
  blame "superZeroArgForm" lhs
  pure .unk

def superSecond (given tgt : Ty) : Eval (Option Ty?) := do
 let u <- univ
 let mut bindTo := none
 for part in (<- firm given).subtys do
  if part.isAnyLike then continue
  if !part.isCls then return none
  if tgt.isClsObj then
   let fits := if part.isInst then u.derivesFromCls part.clsObj tgt else tgt.isNamed "type" || u.derivesFromCls part tgt
   if !fits then return none
  bindTo := part
 pure bindTo

def superAuto (node : Node) (own : Ty) : Eval Ty := do
 let obj := own.clsInst
 let some meth := (<- tree).enclFn? node | pure obj
 let some hit <- Evals.tyOfFn meth | pure obj
 let data := hit.fnTy.fn
 if data.flags.staticMeth || !(data.pars.head?.any (·.isTyDecl)) then return obj
 let par <- boundAt node (hit.fnTy.parTy 0)
 let implicit <- firm par
 match implicit.ownConds with
 | [] => return if implicit.isCls then implicit else obj
 | conds => return obj.addConds conds

def tyOfSuper (node lhs : Node) (args : Nodes) : Eval Typed := do
 if let some extra := args[2]? then flag .callIssue "superArgNum" extra
 let world <- get
 let fn := world.anc.enclFnScope? (hasScope world) node
 let own <- clsTyOf? (fn.bind world.anc.enclCls?)
 let tgtTy <- superTgt lhs args fn own
 let tgt <- firm tgtTy
 let second <- (argVals args)[1]?.mapM fun val => return (val, (<- tyOf val).ty)
 let mut bindTo := none
 match second, own with
 | some (val, ty), _ =>
  if let some hit <- superSecond ty tgt then bindTo := hit
  else
   flag .argumentTy "superArg2" val [<- printTy tgtTy]
   return .unk
 | none, some own => bindTo := (<- superAuto node own)
 | none, none => pure ()
 let mut isInst := true
 if args.length <= 1 then
  if let some meth := (<- tree).enclFn? node then
   if let some hit <- Evals.tyOfFn meth then
    let flags := hit.fnTy.fn.flags
    isInst := !(flags.staticMeth || flags.ctorMeth || flags.clsMeth)
 let u <- univ
 if let some (.memAccess _ mem) <- parentKind? node then
  let mut start := if tgt.isCls then some tgt else none
  let mut isProto := false
  if let (some bound, some from_) := (bindTo, start) then
   if (u.flags bound).proto && !bound.isOfSameCls from_ then
    isProto := true
    start := none
  bindTo := bindTo.map (u.selfSpec · false true)
  let hit <- bindTo.bindM (clsMem? · mem.nameVal {} start)
  let ty <- match hit.filter (·.clsTy.isClsObj), start with
   | some hit, _ => pure (if isProto then hit.clsTy.setOrSub else hit.clsTy)
   | none, some from_ => if u.derivesFromAny from_ then pure .unk else pure ((<- clsOf? (·.objCls)).getD .unk)
   | none, none => pure .unk
  let self := match bindTo, second with
   | some _, some (_, ty) => if ty.isTyVar then ty.toInst else none
   | some bound, none => (bound.setOrSub false).selfVar.asBound.setConds bound.conds
   | none, _ => none
  return {ty := if isInst then ty.toInst false else ty, bindToSelf := self}
 if !tgt.isClsObj then return .unk
 if let some bound := bindTo then
  let bases := (u.info bound).bases
  let next := if bound.isOfSameCls tgt then bases.head?
   else (bases.findIdx? fun base => base.isCls && base.sameCls tgt).bind (bases[· + 1]?)
  if let some next := next then
   let next := if next.isClsObj then u.specForBase bound next else next
   return .ofTy (if isInst then next.toInst else next)
  else
   let some tyCls <- clsOf? (·.tyCls) | pure .unk
   if isInst then return .ofTy (<- objTy) else return .ofTy tyCls.toInst
 else
  if u.derivesFromAny tgt then return .unk
  match (u.info tgt).bases with
  | base :: _ => return if base.isClsObj then .ofTy (if isInst then base.clsInst else base) else .unk
  | [] => pure .unk

variable (node : Node)
def argParts : ArgCat × String? × Node :=
 if let .arg cat name val := node.kind then (cat, name.map (·.nameVal), val) else (.simple, none, node)

def tyOfCalledLambda (node lambda : Node) (pars args : Nodes) (want : Want?) : Eval Typed := do
 let given <- args.mapM (tyOf ·.argVal)
 let tys := given.zipIdx.map fun (res, idx) =>
  {Ty.par s!"p{idx}" res.ty with flags := {tyDecl := true, nameSynth := true}}
 let isByPos := (pars.getLast?.bind (·.parParts?)).any fun last => last.cat == .simple && last.name.isNone
 let goal := Ty.ofFn {Ty.synth "" with
  pars := tys ++ (if isByPos then [Ty.posSep] else [])
  declRet := some (want.elim .unk (·.ty))}
 let isTrial := given.any (·.draft) || (<- isSpecul node) || want.any (·.draft)
 let res <- trying (if isTrial then lambda else none) (tyOf lambda .base (Want.make goal))
 if res.tyErrs then tyOf lambda .base else pure res

variable (form : Ty) (args : Nodes) (flags : EvalFlags) (want : Want?)
def tyOfTyForm : Eval Typed := do
 if let [(.simple, none, val)] := args.map argParts then
  let res <- Evals.tyWant val {tyFormArg := <- hasTyForms node, onlyTyForms := true, tyExpr := true}
  match res.tyErrs, res.ty.tyForm? with
  | false, some hit => pure {res with ty := (form.spec [hit.toInst]).toInst}
  | _, _ => pure res
 else
  flag .callIssue "tyFormArgs" node
  pure .unk

def tyOfAssertTy : Eval Typed := do
 match args.map argParts with
 | [(.simple, none, val), (_, none, hint)] =>
  let res <- tyOf val {} want
  if res.draft then return {ty := .draftUnk, draft := true}
  let stated := (<- Evals.tyWant hint {tyExpr := true}).ty.toInst
  if !stated.isSame (<- stripTyGuard res.ty) {anyIsUnk := true, ignorePseudo := true, ignoreConds := true} then
   let (got, goal) <- printPair res.ty stated {expandAlias := true}
   flag .assertTyFailure "assertTyTyBad" val [goal, got]
  return .ofTy res.ty
 | _ =>
  flag .callIssue "assertTyArgs" node
  pure .unk

def tyOfRevealTy : Eval Typed := do
 let mut shown := none
 let mut text := none
 let mut stated := none
 for (arg, idx) in args.zipIdx do
  let (cat, name, val) := argParts arg
  if idx == 0 then
   if cat == .simple && name.isNone then shown := (arg, val)
  else match cat, name with
   | .simple, some "expected_text" =>
    let ty := (<- tyOf val).ty
    match ty.isObjOf "str", ty.lit? with
    | true, some (.text hit) => text := (hit.toString, val)
    | _, _ => flag .callIssue "revealTyWantTextArg" val
   | .simple, some "expected_type" => stated := ((<- Evals.tyWant val {tyExpr := true}).ty.toInst, val)
   | .simple, some _ => pure ()
   | _, _ => shown := none
 let some (arg, val) := shown
  | flag .callIssue "revealTyArgs" node return .unk
 let res <- tyOf val {} want
 let got <- printTy res.ty {expandAlias := true}
 if !res.draft then
  if let some (goal, place) := text then
   if goal != got then blame "revealTyWantTextBad" place [goal, got]
  if let some (goal, place) := stated then
   if !goal.isSame res.ty {ignorePseudo := true} then
    blame "revealTyWantTyBad" place [<- printTy goal, got]
  reportInformation (say "tyOfSym" [val.print, got]) arg
 pure {ty := res.ty, draft := res.draft}

def tyOfRevealLocals : Eval Ty := do
 let world <- get
 let scope := (world.anc.ancestors node).findSome? fun place => do
  let (hit, _) <- world.anc.evalScope? (hasScope world) place
  let mod <- world.mods[Anc.blockOf hit.id]?.join
  let id <- mod.nodeScope[hit.id]?
  if (world.scopes.scope id).kind == .compr then none else id
 let mut lines := #[]
 if let some scope := scope then
  for (name, sym) in (world.scopes.scope scope).syms do
   if !(<- symFlags sym).noProto then
    let ty <- effTy sym
    lines := lines.push (say "tyOfSym" [name, <- printTy ty {expandAlias := true}])
 reportInformation (if lines.isEmpty then say "revealLocalsNone" else "\n".intercalate lines.toList) node
 noneTy

def tyOfCall : Eval Typed := do
 let .call lhs argNodes _ := node.kind | pure .unk
 let lhsName := lhs.nameVal?.getD ""
 if flags.tyExpr && lhsName == "type" then badForm "tyCallBad" node [] (.ofMsg (say "useTy"))
 let base <- if let .lambda pars _ := lhs.kind then tyOfCalledLambda node lhs pars argNodes want
  else tyOf lhs {EvalFlags.base with fwdRefs := flags.fwdRefs}
 let args := (Node.runtimeArgs argNodes).map Arg.ofNode
 let ty <- uniqueSig base.ty node
 let base := {base with ty}
 let evaluated := do
  if (<- univ).isHole ty then return {ty := .unk, draft := true}
  let isBuiltIn name := ty.isFn && ty.fn.isBuiltIn [name]
  let res <-
   if lhsName == "super" then tyOfSuper node lhs argNodes
   else if (ty.isAnyLike && lhsName == "reveal_type") || isBuiltIn "reveal_type" then tyOfRevealTy node argNodes want
   else if isBuiltIn "assert_type" then tyOfAssertTy node argNodes want
   else if ty.isNamed "TypeForm" then tyOfTyForm node ty argNodes
   else if ty.isAnyLike && lhsName == "reveal_locals" then
    if argNodes.isEmpty then .ofTy <$> tyOfRevealLocals node
    else do
     flag .callIssue "revealLocalsArgs" node
     pure .unk
   else do
    let (res, _) <- checkCall node args base none {want} 0
    pure {ty := res.retTy.getD .unk, tyErrs := res.argErrs
          ovlsUsed := if res.argErrs then [] else res.ovlsUsed, draft := res.draft}
  pure {res with draft := res.draft || base.draft}
 let res <- evaluated
 if !(<- isSpecul node) && !base.draft then
  let isCyclic <- pure (ty.isClsOf "TypeVar") <&&> (·.isTypingStub) <$> fileOf node
  if !isCyclic then
   for arg in args do
    if let some val := arg.val then
     if !(val.kind matches .strList ..) && !(<- isTyCached val) then discard <| tyOf val
 if flags.tyExpr then
  badForm "tyHintCall" node
  return .unk
 pure res

end TypeChecker.Infer
