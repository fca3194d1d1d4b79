import TypeChecker.Infer.Assign.Variable

/-! Type arguments: evaluating them, checking where they may stand, lining them up with the parameters of a
class or an alias, and applying them to an alias. -/

namespace TypeChecker

def Ty.numberedPar (idx : Nat) (ty : Ty) : TyPar :=
 {cat := .simple, ty, flags := {nameSynth := true, tyDecl := true}, name := s!"__p{idx}"}

namespace Infer
variable [Evals] (node : Node)
def postponesAnnots : Ask := do
 let file <- fileOf node
 return file.isStub || file.ver.isAtLeast (.three 14)
  || (<- bound? node).any (·.src.facts.futureImports.contains "annotations")

def hasTyForms := isOn node .enableTrialFeatures

def badForm (name : String) (node : Node) (vals : Strings := []) (notes : Adden := .empty) :=
 flag .invalidTyForm name node vals notes

def checkUnp (ty : Ty) (node : Node) : Ask := do
 if ty.var.isUnp then return true
 badForm "unpTupVarWant" node [ty.shared.name, ty.shared.name]
 pure false

structure TyArgRules where
 (allowParSpec allowTyVarTup allowEmptyTup allowList allowUnpTuples : Bool := false)

def checkTyArgIn : Nat -> TyArgRules -> Typed -> Ask
 | 0, _, _ => pure true
 | fuel + 1, rules, arg => do
  let ty := arg.ty
  let fail name := do
   badForm name (arg.node.getD default)
   pure false
  if let some list := arg.tyList then
   if !rules.allowList then return <- fail "tyArgListBad"
   list.forM fun ent => discard (checkTyArgIn fuel {} ent)
  if ty.isEllipsis && !rules.allowList then return <- fail "dotsPlace"
  if ty.isMod then return <- fail "modAsTy"
  if ty.isSigVar && !rules.allowParSpec then return <- fail "sigPlace"
  if ty.isTupVar && !ty.var.isInUnion then
   if !rules.allowTyVarTup then return <- fail "tupVarPlace"
   discard (checkUnp ty (arg.node.getD default))
  if !rules.allowEmptyTup && arg.isEmptyTup then return <- fail "zeroSizeTupBad"
  if ty.isUnpCls && !rules.allowUnpTuples then return <- fail "unpArgInTyArg"
  pure true

def checkTyArg (arg : Typed) (rules : TyArgRules := {}) := checkTyArgIn maxTyDepth rules arg

def unpackTupLike? (u : Univ) (ty : Ty) : Ty? :=
 if ty.isTupVar then if ty.var.isUnp then none else ty.unpackVar
 else if ty.isSigVar then none
 else if ty.isTyVar then
  if ty.bound?.any fun bound => bound.isObj && u.isTupCls bound then ty.unpackVar else none
 else if ty.isClsObj && !ty.cls.orSub && u.isTupCls ty then ty.withCls ({· with isUnp := true})
 else none

variable (args : List Typed) (flags : EvalFlags) (pars : Tys)
def tyArgOf : Eval Typed := do
 let adjusted := {flags with
  instaTy := true, dotsToAny := true, strLitAsTy := true
  fwdRefs := flags.fwdRefs || (<- inStub node)}
 if let .list items := node.kind then
  let list <- items.mapM fun ent => return {<- tyOf ent adjusted with node := ent}
  writeTy node .unk
  pure {ty := .unk, tyList := list, node}
 else
  let res <- tyOf node adjusted
  if let .dict .. := node.kind then badForm "dictInHint" node
  if flags.noClsVar && res.ty.isNamed "ClassVar" then badForm "clsVarBad" node
  pure {res with node := node}

structure TyArgCtx where
 (isAnnotated hasCustomGetItem isFinal isClsVar : Bool := false)
 inlined? : Option (Node -> Nodes -> Eval Ty?) := none

def tyArgsOf (ctx : TyArgCtx := {}) : Eval (List Typed) := do
 let .idx _ items trailComma := node.kind | pure []
 let allowsBoth := do
  let some clsNode := (<- tree).enclCls? node true | pure false
  let some res <- Evals.tyOfCls clsNode | pure false
  isDataCls res.clsTy
 let flags' := {flags with keepSpec := true, tyFormArg := false}
 let adjusted <-
  if ctx.isFinal then do
   let both <- allowsBoth
   pure {flags' with noFinal := true, noClsVar := flags.noClsVar || !both}
  else if ctx.isClsVar then do
   let both <- allowsBoth
   pure {flags' with noClsVar := true, noFinal := flags.noFinal || !both}
  else pure {flags' with
   noSpec := false, noParSpec := false, noTyVarTup := false, allowReq := false
   sameVariance := false, allowUnpTup := true, allowConcat := true
   noClsVar := flags.noClsVar || !ctx.isAnnotated
   noFinal := flags.noFinal || !ctx.isAnnotated}
 let plain := {noParSpec := true, noTyVarTup := true, noSpec := true, noClsVar := true}
 let evaluate expr idx := do
  if ctx.hasCustomGetItem then return {<- tyOf expr plain with node := expr}
  if ctx.isAnnotated && idx > 0 then
   let fwdRefs <- postponesAnnots node
   return {<- tyOf expr {plain with fwdRefs} with node := expr}
  match ctx.inlined?, expr.kind, idx with
  | some make, .dict items _, 0 =>
   pure {ty := (<- clsOf? (·.strCls)).getD .unk, inlinedTdict := <- make expr items, node := expr}
  | _, _, _ => tyArgOf expr adjusted
 let single := match items, trailComma with
  | [item], false => if let .arg _ none val := item.kind then
    if let .tup ents _ := val.kind then some (val, ents) else none
   else none
  | _, _ => none
 if let some (val, ents) := single then
  let args <- ents.zipIdx.mapM fun (ent, idx) => evaluate ent idx
  writeTy val .unk
  return args
 let mut args := #[]
 for (item, idx) in items.zipIdx do
  let .arg cat name val := item.kind | continue
  let mut res <- evaluate val idx
  if cat == .unpList && (!ctx.isAnnotated || idx == 0) then
   if let some ty := unpackTupLike? (<- univ) res.ty then res := {res with ty}
   else if flags.tyExpr then
    badForm "unpBad" val
    res := {res with tyErrs := true}
   else res := {res with ty := .unk}
  if name.isSome then
   if flags.tyExpr then
    badForm "kwArgInTyArg" val
    res := {res with tyErrs := true}
   else res := {res with ty := .unk}
  let isMissing := if let .error cat _ _ := val.kind then cat == .missingIdxOrSlice else false
  if !isMissing then args := args.push res
 pure args.toList

def unbArg? (start : Nat) : Option (Nat × Ty) :=
 args.zipIdx.findSome? fun (arg, idx) =>
  if let [ent] := arg.ty.tupArgs then if start <= idx && arg.ty.isUnpCls && ent.isUnb then (idx, ent.ty) else none
  else none

def gatherMany (site : Node) : Eval (List Typed) := do
 let many? := pars.findIdx? (·.isTupVar)
 let unb? := unbArg? args 0
 if let some (idx, _) := unb? then
  if let some (second, _) := unbArg? args (idx + 1) then
   badForm "manyTyArgsOver" ((args[second]?.bind (·.node)).getD site)
 let some many := many? | pure args
 let args := if let some (idx, ty) := unb? then
   if args.length < pars.length then
    let ent := {ty, node := args[idx]?.bind (·.node)}
    let before := min (many - idx) many
    let args := args.take idx ++ .replicate before ent ++ args.drop idx
    let place := idx + before + 1
    args.take place ++ .replicate (pars.length - args.length) ent ++ args.drop place
   else args
  else args
 if args.length <= many then
  if pars[many]?.any (·.shared.isDfltGiven) then return args
  return args ++ [{ty := <- tupObj [] true, node := site}]
 let parCount := pars.length - (pars.reverse.takeWhile fun par =>
  par.isSigVar && par.shared.isDfltGiven).length
 -- A place before the first argument counts from the last one.
 let stop : Int := many + 1 + args.length - parCount
 let stop := (if stop < 0 then stop + args.length else stop).toNat
 let middle := (args.take stop).drop many
 let lists := (middle.reverse.takeWhile (·.tyList.isSome)).length
 let middle := middle.take (middle.length - lists)
 if let [only] := middle then
  if only.ty.isTupVar then
   discard (checkUnp only.ty (only.node.getD site))
   return args
 for (arg, idx) in middle.zipIdx do
  discard (checkTyArg arg {allowEmptyTup := idx == 0, allowTyVarTup := true, allowUnpTuples := true})
 let isEmpty := if let [only] := middle then only.isEmptyTup else false
 let ents := if isEmpty then [] else middle.flatMap fun arg =>
  match arg.ty.isUnpCls, arg.ty.tupArgs? with
  | true, some ents => ents
  | _, _ => [{ty := arg.ty.toInst}]
 let packed := {ty := <- tupObj ents true, node := args[many]?.bind (·.node)}
 return args.take many ++ packed :: (args.drop (stop - lists))

def gatherSig (args : List Typed) (site : Node) : Eval (Option (List Typed)) := do
 let [par] := pars | pure args
 if !par.isSigVar then return args
 let isConcat ty := ty.isClsOf "Concatenate"
 match args with
 | [arg] =>
  if arg.tyList.isSome || arg.ty.isSigVar || arg.ty.isEllipsis || isConcat arg.ty
  then return args
 | _ =>
  let problem? := args.findSome? fun arg =>
   (if arg.ty.isSigVar then some "sigPlace"
    else if arg.ty.isEllipsis then some "dotsPlace"
    else if isConcat arg.ty then some "concatPlace"
    else if arg.tyList.isSome then some "tyArgListBad"
    else none).map (·, arg.node.getD site)
  if let some (msg, node) := problem? then
   badForm msg node
   return none
 return some [{ty := .unk, node := (args.head?.bind (·.node)).or site, tyList := args}]

def sigArg? (arg : Typed) (forAlias : Bool) : Eval Ty? := do
 let base := Ty.synth "" {sigVal := true}
 let gradual data := {data.addPars Ty.dfltPars with flags := {data.flags with gradual := true}}
 if let some list := arg.tyList then
  let pars <- list.zipIdx.mapM fun (ent, idx) => do
   let isValid <- pure !forAlias <||> checkTyArg ent
   return Ty.numberedPar idx (if isValid then ent.ty.toInst else .unk)
  return some (.ofFn (base.addPars (pars ++ (if list.isEmpty then [] else [Ty.posSep]))))
 else
  if arg.ty.isEllipsis then return some (.ofFn (gradual base))
  if arg.ty.isSigVar then return if forAlias then arg.ty.toInst else none
  if !(arg.ty.isClsOf "Concatenate") then return none
  let ents := arg.ty.tyArgs
  let data := if forAlias then {} else base
  let data := data.addPars (ents.dropLast.zipIdx.map fun (ty, idx) => Ty.numberedPar idx ty)
  return some <| .ofFn <| if let some last := ents.getLast? then
    let data := if forAlias then data.addPar Ty.posSep else data
    if last.isSigVar then data.addPars (Ty.sigVariadics last)
    else if last.isEllipsis then gradual data
    else data
   else data

/-! Variance of the parameters of an alias. -/

def usageVariances : Nat -> Tys -> Variance -> Ty -> Array Variance -> Eval (Array Variance)
 | 0, _, _, _, variances => pure variances
 | fuel + 1, pending, ctx, ty, variances => do
  let expanded := (<- univ).unrollAlias ty
  let isAlias := !expanded.isIdentical ty
  if isAlias && decide (1 < (pending.filter (·.isSame ty)).length) then return variances
  let pending := if isAlias then ty :: pending else pending
  let update variances ty variance :=
   ty.subtys.foldlM (fun variances mem =>
    if let some idx := pars.findIdx? (·.isSame mem) then pure (variances.modify idx (·.combine variance))
    else usageVariances fuel pending variance mem variances) variances
  expanded.subtys.foldlM (fun variances mem => do
   match mem.form with
   | .fn data =>
    let variances <- (List.range data.pars.length).foldlM (fun variances idx =>
     update variances (mem.parTy idx) ctx.invert) variances
    let some ty := (<- univ).effRet? data | pure variances
    update variances ty ctx
   | .cls data =>
    let some args := data.tyArgs | pure variances
    Evals.inferVariance mem
    let u <- univ
    args.zipIdx.foldlM (fun variances (arg, idx) => do
     if u.isTupCls mem then update variances arg ctx
     else match (u.tyPars mem)[idx]? with
      | none => pure variances
      | some par =>
       match arg.isUnpCls, arg.tupArgs? with
       | true, some ents => ents.foldlM (fun variances ent => update variances ent.ty .invar) variances
       | _, _ =>
        let variance := par.var.computedVariance.getD par.shared.declVariance
        update variances arg (if ctx == .contra then variance.invert else variance))
     variances
   | _ => pure variances) variances

def inferAliasVariance (ty : Ty) : Eval (Option (List Variance)) := do
 let some use := ty.aliasUse? | pure none
 let info := (<- univ).aliasAt use.shared.id
 let some pars := info.tyPars | pure none
 if let some known := info.variances then return known
 let set variances := modify fun s =>
  {s with catalog := {s.catalog with
   aliases := s.catalog.aliases.modify use.shared.id ({· with variances := variances})}}
 set (pars.map fun _ => .unk)
 let hit <- usageVariances pars maxTyDepth [] .covar ty (pars.map fun _ => .unk).toArray
 set hit.toList
 pure hit.toList

/-! Applying type arguments to an alias. -/

def unsolvedIn (scopes : List TyScopeId) : Eval ApplyOpts :=
 return {fillUnsolved := some {scopes, tupCls := <- tupCls?}}

def aliasWithDflts (ty : Ty) (site : Node? := none) : Eval Ty := do
 let some use := ty.aliasUse? | pure ty
 let pars := (((<- univ).aliasAt use.shared.id).tyPars).getD []
 if pars.isEmpty || use.tyArgs.isSome then return ty
 let opts <- unsolvedIn [use.shared.scopeId]
 let mut constrs := {}
 let mut args := #[]
 for par in pars do
  let arg <-
   if par.shared.isDfltGiven || par.isSigVar then solve par constrs opts
   else if par.isTupVar then tupObj [{ty := .unk, isUnb := true}] true
   else pure .unk
  args := args.push arg
  constrs := constrs.setTy par arg
 if let some node := site then
  if pars.any (!·.shared.isDfltGiven) then flag .missingTyArg "tyArgsGoneForAlias" node [use.shared.name]
 return (<- solve ty constrs opts).setAliasUse (some {use with tyArgs := args.toList})

def specdAlias? (base : Ty) (flags : EvalFlags) : Eval Typed? := do
 let .idx _ items _ := node.kind | pure none
 let (use?, tgt) := match base.aliasUse?, base.tyForm? with
  | some use, _ => (some use, base)
  | none, some form => (form.aliasUse?, form.toInsta)
  | none, none => (none, base)
 let some use := use? | pure none
 let some pars := ((<- univ).aliasAt use.shared.id).tyPars | pure none
 if !tgt.isInsta || use.tyArgs.isSome then return none
 discard (inferAliasVariance base)
 let args <- gatherMany (<- tyArgsOf node flags) pars node
 let args? <- gatherSig pars args node
 let args := args?.getD []
 let nodeOf idx := (args[idx]?.bind (·.node)).getD node
 let mut failed := args?.isNone
 let count list := list.length.repr
 if args.length > pars.length then
  badForm "tyArgsOver" (nodeOf pars.length) [<- printTy tgt, pars.length.repr, count args]
  failed := true
 else if args.length < ((pars.findIdx? (·.shared.isDfltGiven)).getD pars.length) then
  badForm "tyArgsFew" (items.getLast?.getD node) [<- printTy tgt, pars.length.repr, count args]
  failed := true
 let opts <- unsolvedIn [use.shared.scopeId]
 let mut constrs := {}
 let mut notes := .empty
 let note notes msg idx := notes.addChild ((Adden.ofMsg msg).setSpan (nodeOf idx).span)
 for (par, idx) in pars.zipIdx do
  let arg? := args[idx]?
  let src? <- match par.isSigVar, arg? with
   | true, some arg =>
    if let some sig <- sigArg? arg true then pure (some sig)
    else
     badForm "tyArgListWant" (nodeOf idx)
     failed := true
     pure none
   | _, _ => do
    if arg?.any (·.tyList.isSome) then
     badForm "tyArgListBad" (nodeOf idx)
     failed := true
    let ty <- if let some arg := arg? then pure arg.ty.toInst
     else if par.shared.isDfltGiven then solve par constrs opts else pure .unk
    if flags.sameVariance then
     let variance := ((<- inferAliasVariance tgt).getD [])[idx]?
     let u <- univ
     if variance.any fun variance => !u.isVarianceCompat ty variance then
      notes := note notes (say "varyBadForTyAlias" [<- printTy ty, <- printTy par]) idx
    if ty.isUnp && !par.isTupVar then
     notes := note notes (say "unpArgInTyArg") idx
     pure (some .unk)
    else pure ty
  if let some src := src? then
   let (_, hit, problems) <- Match.constrainedExplained (some constrs) (assignTyVar par src {retainLits := true})
   constrs := hit.getD constrs
   for msg in problems.msgs do notes := notes.addMsg msg
   for child in problems.kids do notes := notes.addChild child
 if !notes.isEmpty then
  flag .invalidTyForm "tyNotSpec" node [<- printTy tgt] notes (notes.effSpan.getD node)
  failed := true
 let solved := (<- solveConstrs constrs).main
 let mut hit := #[]
 for par in pars do
  if let some ty := solved.get? par.var then hit := hit.push ty
  else
   let ty := par.unkForVar (<- tupCls?)
   constrs := constrs.setTy par ty
   hit := hit.push ty
 let mut ty := (<- solve tgt constrs).setAliasUse (some {use with tyArgs := hit.toList})
 if <- hasTyForms node then ty := ty.setTyForm (if failed then none else ty.toInst)
 if base.aliasUse?.isSome then return some {ty, node}
 return some {ty := base.setTyForm ty.toInst, node}

end Infer
end TypeChecker
