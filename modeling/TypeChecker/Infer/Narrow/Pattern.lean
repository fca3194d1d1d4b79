import TypeChecker.Infer.Narrow.Test

/-! Narrowing by patterns: what remains of the type of a subject where a pattern matches it, or does not, and
which types the names in a pattern get. -/

namespace TypeChecker.Infer
variable [Evals]
structure SeqView where
 ty : Ty
 ents : Tys := []
 isOut := false
 (mayFail isOfAnyLength isTup isUnb : Bool := false)

structure MappingView where
 ty : Ty
 (isMapping isOut : Bool := false)
 tdict : Ty? := none
 args : Option (Ty × Ty) := none

def selfMatching := (words "bool bytearray bytes dict float frozenset int list set str tuple").map ("builtins." ++ ·)

variable (cls : Ty)
def isSelfMatching := do
 if selfMatching.contains cls.clsFullName then return true
 if (<- clsMem? cls "__match_args__").isSome then return false
 return ((<- univ).mro cls).any fun sup => sup.isCls && selfMatching.contains sup.clsFullName

def byPosNames := do
 let some mem <- clsMem? cls "__match_args__" | pure []
 let ty <- tyOfMem mem
 if !ty.isTupObj || ty.isUnbTup then return []
 let nameOf (arg : TyTupArg) : String? := if let some (.text name) := arg.ty.lit? then
   if arg.ty.isObjOf "str" then name.toString else none
  else none
 return (ty.tupArgs.mapM nameOf).getD []

def namesForArgs (args : Nodes) := if args.any (·.kind matches .patClsArg none _) then byPosNames cls else pure []

def asGeneric? (obj ty : Ty) := do
 let (fits, constrs) <- Match.constrained {} (assign obj ty)
 if fits then some <$> solve obj constrs else pure none

variable (pat : Node)
def mappingViews (ty : Ty) : Eval (List MappingView) :=
 (·.flatten) <$> ty.subtys.mapM fun mem => do
  let part <- firm mem
  if part.isAnyLike then return [{ty := mem, args := (part, part)}]
  if !part.isObj then return []
  if (<- flagsOf part).tdict then return [{ty := mem, isMapping := true, tdict := part}]
  let some mapping := (<- typingTy? pat "Mapping").filter (·.isClsObj) | pure []
  let obj := mapping.clsInst
  if let some hit <- asGeneric? obj mem then
   return if let key :: val :: _ := hit.tyArgs then [{ty := mem, isMapping := true, args := (key, val)}] else []
  return if <- canAssign mem obj then [{ty := mem, args := some (.unk, .unk)}] else [{ty := mem, isOut := true}]

variable (node : Node)
def wrapInList (ty : Ty) := do
 if ty.isNever then return ty
 let list <- builtinObj node "list"
 if !list.isObj then return .unk
 return list.spec [((<- univ).findAnyOrUnk? ty false).getD ty]

def seqEnt (view : SeqView) (idx count : Nat) (star : Nat?) (wraps : Bool) : Eval Ty := do
 let first := view.ents.headD .unk
 let wrap ty := if wraps then wrapInList node ty else pure ty
 if view.isOfAnyLength then return <- if star == idx then wrap first else pure first
 let some star := star | return view.ents.getD idx .unk
 if idx < star then return view.ents.getD idx .unk
 if idx == star then
  let tys <- ((view.ents.drop star).take (view.ents.length + 1 - count)).mapM fun ty =>
   if ty.isTupVar && !ty.var.isInUnion then pure .unk else stripLit ty
  return <- wrap (.combine tys)
 return view.ents.getD (view.ents.length - (count - idx)) .unk

section
variable (narrow : Node -> Bool -> Ty -> Eval Ty)
def lineUpTup (args : List TyTupArg) (count : Nat) (star : Nat?) : List TyTupArg :=
 let isVariadic arg := arg.isUnb || arg.ty.isUnpTupVar || arg.ty.isUnpTyVar
 let args := if let some idx := args.findIdx? isVariadic then
   let args := args.take idx ++ .replicate (count - args.length) (args.getD idx {ty := .unk}) ++ args.drop idx
   if args.length > count && star.isNone then args.eraseIdx idx else args
  else args
 if let some star := star then
  if args.length >= 2 && args.length > count then
   let removed := (args.drop star).take (args.length + 1 - count)
   Tup.splice args star removed.length [{ty := .combine (removed.map (·.ty)), isUnb := removed.all isVariadic}]
  else args
 else args

variable (pat : Node) (ents : Nodes) (star : Nat?)
def seqViews (ty : Ty) : Eval (List SeqView) :=
 ty.subtys.mapM fun mem => do
  let u <- univ
  let part <- firm mem
  let out := {ty := mem, isOfAnyLength := true, isOut := true}
  let ancestors := if part.isObj then (u.mro part).takeWhile (·.isClsObj) else []
  if let some sup := ancestors.find? (·.isBuiltIn ["str", "bytes", "bytearray", "Sequence", "tuple"]) then
   if !sup.isBuiltIn ["Sequence", "tuple"] then return out
   let seq := u.partlySpec sup part (<- tyCls?)
   if !seq.isTup then return {ty := mem, ents := [seq.tyArgs.headD .unk], isOfAnyLength := true}
   let args := seq.tupArgs?.getD [{ty := .unk, isUnb := true}]
   let many := args.findIdx? fun arg => arg.isUnb || arg.ty.isUnpTupVar || arg.ty.isUnpTyVar
   let lined := lineUpTup args ents.length star
   let misses lined skipped :=
    (ents.zip lined).zipIdx.foldlM (fun fails ((ent, arg), idx) => do
     if skipped == idx then return fails
     return fails || (<- narrow ent true arg.ty).isNever) false
   let view : SeqView := {ty := mem, isTup := true, isUnb := many.isSome}
   let given lined isOut := {view with isOut, ents := if isOut then [] else lined.map (·.ty)}
   if lined.length == ents.length then
    let isOut <- misses lined none
    let isExact := star.isSome && star == many && args.length == ents.length
    return {given lined isOut with mayFail := many.isSome && !isExact}
   let some idx := star | pure out
   if lined.length + 1 != ents.length then return out
   let lined := Tup.splice lined idx 0 [{ty := .any, isUnb := true}]
   return given lined (<- misses lined star)
  else
   let some seq := (<- typingTy? pat "Sequence").filter (·.isClsObj) | pure out
   let obj := seq.clsInst
   let view ty mayFail := {ty := mem, ents := [ty], isOfAnyLength := true, mayFail}
   if let some ent := (<- asGeneric? obj mem).bind (·.tyArgs.head?) then return view ent false
   let (fits, constrs) <- Match.constrained {} (expectTy obj mem (<- tyVarScopes pat) pat.start)
   if fits then if let some ent := (<- solve seq constrs).tyArgs.head? then return view ent true
   return if <- canAssign mem (obj.spec (some [.unk])) then view .unk true else out

def maxExpandedTuples := 128

def narrowBySeq (holds : Bool) (ty : Ty) : Eval Ty := do
 let ty := (<- univ).unrollAlias ty
 let tup <- builtinTy pat "tuple"
 let tupOf tys := (tup.specTup (tys.map ({ty := ·}))).clsInst
 let mut kept := []
 let mut isExpanded := false
 for view in <- seqViews narrow pat ents star ty do
  if view.isOut then
   if !holds then kept := kept ++ [view.ty]
   continue
  let unb := if view.ty.isObj then view.ty.tupArgs.findIdx? (·.isUnb) else none
  let mut narrows := view.isTup && (holds || !view.isOfAnyLength && !view.isUnb && (unb.isNone || unb == star))
  let mut isPlausible := true
  let mut isDefinite := !(view.isOfAnyLength && (ents.length != 1 || star != some 0)) && !view.mayFail
  let mut before := []
  let mut after := []
  let mut dims := []
  for (ent, idx) in ents.zipIdx do
   let entTy <- seqEnt pat view idx ents.length star false
   before := before ++ [entTy]
   let hit <- narrow ent holds entTy
   if holds then
    if star == idx then
     if hit.isObj && hit.tupArgs?.isSome && !hit.isUnbTup then after := after ++ hit.tupArgs.map (·.ty)
     else
      after := after ++ [hit]
      narrows := false
    else
     after := after ++ [hit]
     if hit.isNever then isPlausible := false
   else
    if hit.isNever then after := after ++ [entTy]
    else
     isDefinite := false
     dims := dims ++ [idx]
     after := after ++ [hit]
    if star == idx then narrows := false
  if ents.isEmpty && !view.ents.isEmpty then after := after ++ [.combine view.ents]
  if !holds then
   if isDefinite then continue
   if narrows && !dims.isEmpty && tup.isClsObj then
    isExpanded := true
    kept := kept ++ [.combine (dims.map fun dim => tupOf (before.set dim (after.getD dim .unk)))]
   else kept := kept ++ [view.ty]
  else if isPlausible then
   let mut res := view.ty
   if narrows && tup.isClsObj then res := tupOf after
   if view.mayFail && !view.isTup then
    if let some seq := (<- typingTy? pat "Sequence").filter (·.isClsObj) then
     let arg <- stripLit (.combine after)
     res := (seq.spec (some [((<- univ).findAnyOrUnk? arg false).getD arg])).clsInst
   kept := kept ++ [res]
 return .combine kept false (if isExpanded then maxExpandedTuples else none)

def narrowByMapping (holds : Bool) (ty : Ty) : Eval Ty := do
 let ty := (<- univ).unrollAlias ty
 if !holds then
  let [ent] := ents | return ty
  match ent.kind with
  | .patExpandEnt _ => return .combine (((<- mappingViews pat ty).filter (!·.isMapping)).map (·.ty))
  | .patKeyEnt key val =>
   let .patLit keyExpr := key.kind | return ty
   let .patAs pats _ := val.kind | return ty
   let litOf pat := if let .patLit expr := pat.kind then expr else none
   let some vals := pats.mapM litOf | return ty
   let keyTy := (<- tyOf keyExpr).ty
   let some (.text name) := keyTy.lit? | return ty
   if !keyTy.isObjOf "str" then return ty
   let tys <- vals.mapM fun val => return (<- tyOf val).ty
   return <- ty.mapM fun mem => do
    if !mem.isObj || !(<- flagsOf mem).tdict then return mem
    let some item := (<- typedEnts mem true).known.lookup name.toString | pure mem
    return if (item.isReq || item.isProvided) && item.valTy.isObj && tys.any fun ty =>
      ty.isObj && ty.isOfSameCls item.valTy && ty.sameLit item.valTy then none else mem
  | _ => return ty
 let str <- builtinObj pat "str"
 let mut kept := []
 for start in <- mappingViews pat ty do
  if start.isOut then continue
  let mut view := start
  let mut isPlausible := true
  for ent in ents do
   let .patKeyEnt key val := ent.kind | continue
   match view.tdict, view.args with
   | some dict, _ =>
    let keys <- narrow key true str
    let mut vals := []
    for keyTy in keys.subtys do
     if keyTy.isAnyLike then vals := vals ++ [keyTy]
     else if keyTy.isObjOf "str" then
      let some (.text name) := keyTy.lit? | vals := vals ++ [.unk]
      let some item := (<- typedEnts dict).known.lookup name.toString | continue
      let hit <- narrow val true item.valTy
      if hit.isNever then continue
      vals := vals ++ [hit]
      if !item.isReq && !item.isProvided && view.ty.isSame dict then
       let made := dict.withCls fun data => {data with
        narrowedEnts := setEnt (data.narrowedEnts.getD []) name.toString {item with isReq := false, isProvided := true}}
       view := {view with ty := made, tdict := made}
    if keys.isNever || vals.all (·.isNever) then isPlausible := false
   | none, some (keyTy, valTy) =>
    if (<- narrow key true keyTy).isNever then isPlausible := false
    if (<- narrow val true valTy).isNever then isPlausible := false
   | none, none => pure ()
  if isPlausible then kept := kept ++ [view.ty]
 return .combine kept

def narrowByLitPat (expr : Node) (holds : Bool) (ty : Ty) : Eval Ty := do
 let lit := (<- tyOf expr).ty
 let isLit ty := ty.isLitTy
 mapExpanded ty fun part _ _ => do
  if holds then
   if <- canAssign part lit then return lit
   if isLit lit && part.isObj && !part.isLitTy then if <- canAssign (lit.setLit none) part then return part
   return none
  if part.isNoneInst && lit.isNoneInst then return none
  if isLit lit && isLit part then if <- canAssign lit part then return none
  let some (.bool val) := lit.lit? | pure part
  return if part.isObjOf "bool" && !part.hasLit then lit.setLit (some (.bool !val)) else part

def narrowPatArg (arg : Node) (idx : Nat) (names : Strings) (holds : Bool) (ty : Ty) : Eval Ty := do
 let .patClsArg nameNode pat := arg.kind | pure .unk
 if ty.isAnyLike then return ty
 if !ty.isCls then return .unk
 let u <- univ
 let mut whole := none
 if nameNode.isNone && idx == 0 then
  if <- isSelfMatching ty then whole := ty
  else if names.isEmpty then whole := (<- ((u.mro ty).filter (·.isCls)).filterM isSelfMatching).getLast?
 let name := (nameNode.map (·.nameVal)).orElse fun _ => names[idx]?
 let hit <- match whole, name with
  | some self, _ => pure (some self.clsInst)
  | none, some name => (·.map (·.ty)) <$> trying arg (boundMem? arg ty.clsInst name)
  | none, none => pure none
 if let some hit := hit then narrow pat holds hit
 else
  if !holds then return ty
  if (u.flags ty).final then return .never
  narrow pat holds .unk

variable (args : Nodes)
def narrowOutCls (cls ty : Ty) := do
 let u <- univ
 let names <- namesForArgs cls args
 let cls := if (u.tyPars cls).isEmpty then cls else cls.spec none
 let obj := cls.clsInst
 mapExpanded ty (fun part mem _ => do
  if u.isMclsInst obj && part.isClsObj then
   return if <- canAssign cls ((u.info part).metaTy.getD .unk) then none else part
  if !part.isAnyLike && cls.isNamed "Callable" then if <- canAssign .unkCallable part then return none
  if !part.isNoneInst && !part.isObj then return mem
  if part.isNoneInst && cls.isNamed "NoneType" then return none
  if !(<- canAssign obj part) then return part
  if part.isLitTy || args.isEmpty then return none
  if !(<- canAssign part obj) then if !(u.flags part).final && !(u.flags obj).proto then return part
  for (arg, idx) in args.zipIdx do if !(<- narrowPatArg narrow arg idx names false part).isNever then return mem
  return none) {expand := (expandPromotions pat)}

def narrowToCls (cls given ty : Ty) : Eval Ty := do
 let u <- univ
 mapExpanded ty fun part _ _ => do
  let isCallable := cls.isNamed "Callable"
  if part.isAnyLike then
   return some (if isCallable then Ty.unkCallable.withFn ({· with pars := Ty.dfltPars part.isUnk, declRet := part})
    else given.toInst)
  if u.isMclsInst cls.toInst && part.isClsObj then
   let mcls := (u.info part).metaTy.getD .unk
   if <- canAssign cls mcls then return part
   return if <- canAssign mcls cls then part else none
  if part.isNoneInst && cls.isNamed "NoneType" then return part
  if isCallable then
   if <- canAssign .unkCallable part then return part
   return if <- canAssign part.toInst .unkCallable then Ty.unkCallable else none
  if !part.isObj then return none
  let mut res := part
  if !(<- canAssign cls.clsInst part) then
   if !(<- canAssign part cls.clsInst) then return none
   res := given.toInst.addConds part.conds
   if given.isClsObj && (u.isSpec given || !(u.tyPars given).isEmpty) then
    let obj := (given.spec none).clsInst
    let (fits, constrs) <- Match.constrained {} (expectTy obj part none)
    if fits then res <- solve obj constrs (<- unsolvedIn given.scopeIds)
  let names <- namesForArgs cls args
  let hit <- args.zipIdx.mapM fun (arg, idx) => narrowPatArg narrow arg idx names true res
  return if hit.any (·.isNever) then none else res

def narrowByClsPat (name : Node) (args : Nodes) (holds : Bool) (ty : Ty) : Eval Ty := do
 let mut cls := (<- tyOf name .base).ty
 let u <- univ
 if cls.isCls && cls.aliasUse?.isNone then cls := u.specUnk cls.dropPromotions (<- tupCls?)
 if !holds then return <- if cls.isClsObj then narrowOutCls narrow pat args cls ty else pure ty
 if !cls.isInsta && !cls.isNever then
  blame "tyNotCls" name [<- printTy cls]
  return .unk
 if cls.isClsObj then
  let flags := u.flags cls
  if flags.proto && !flags.runtimeCheckable || flags.tdict then
   report .general (if flags.proto && !flags.runtimeCheckable then say "protoNeedsRuntimeCheckable"
    else say "tdInClsPat") name
   return .unk
 mapExpanded cls fun part mem _ => do
  if part.isAnyLike then return mem
  if part.isClsObj then some <$> narrowToCls narrow args part mem ty else pure none

end

def narrowByVal (expr : Node) (holds : Bool) (subj : Ty) : Eval Ty := do
 let isLit ty := ty.isLitTy
 let change val mem _ := do
  let hit <- (mapExpanded subj (fun part _ _ => do
   let isSame := part.isObj && val.isObj && part.isSameWithoutLit val
   if !holds then
    if isSame && !part.isLitTy && val.isLitTy then
     if let some all <- litsOf? part then return some (.combine (all.filter (!val.sameLit ·)))
    return if isSame && part.isLitTy && val.sameLit part then none else part
   if val.isNever || part.isNever then return some .never
   if val.isAnyLike || part.isAnyLike then
    return some (if val.isUnk || part.isUnk then val.preserveUnk part else .any)
   if isLit part && isLit val then return if isSame && val.sameLit part then mem else none
   let ret <- trying expr (Evals.magicCall val "__eq__" [part] expr none)
   return ret.map fun _ => mem) {filter := if val.conds.isEmpty then none else val.conds})
  modify (· ++ [hit])
  pure none
 let (_, kept) <- .run (s := []) (mapExpanded (<- tyOf expr).ty change)
 return .combine kept

def narrowPatIn : Nat -> Node -> Bool -> Ty -> Eval Ty
 | 0, _, _, ty => pure ty
 | fuel + 1, pat, holds, ty => do
  let narrow := narrowPatIn fuel
  match pat.kind with
  | .patSequence ents star => narrowBySeq narrow pat ents star holds ty
  | .patLit expr => narrowByLitPat expr holds ty
  | .patCls name args => narrowByClsPat narrow pat name args holds ty
  | .patAs pats _ =>
   let mut rest := ty
   let mut kept := []
   for pat in pats do
    if holds then kept := kept ++ [<- narrow pat true rest]
    rest <- narrow pat false rest
   return if holds then .combine kept else rest
  | .patMapping ents => narrowByMapping narrow pat ents holds ty
  | .patVal expr => narrowByVal expr holds ty
  | .patCapture .. => return if holds then ty else .never
  | _ => pure ty

def narrowByPat (holds : Bool) (ty : Ty) := narrowPatIn Node.maxHeight pat holds ty

def mappingEntTys (ent : Node) (views : List MappingView) : Eval (Ty × Ty) := do
 let str <- builtinObj pat "str"
 let hit <- views.mapM fun view => do
  match ent.kind, view.tdict, view.args with
  | .patKeyEnt key _, some dict, _ =>
   let keys <- narrowByPat key true str
   let ents <- typedEnts dict
   let vals := keys.subtys.map fun keyTy => if let some (.text name) := keyTy.lit? then
     (ents.known.lookup name.toString).elim .unk (·.valTy)
    else .unk
   pure ([keys], vals)
  | .patExpandEnt _, some _, _ => pure ([str], [<- objTy])
  | .patKeyEnt key val, none, some (keyTy, valTy) =>
   pure ([<- narrowByPat key true keyTy], [<- narrowByPat val true valTy])
  | .patExpandEnt _, none, some (keyTy, valTy) => pure ([keyTy], [valTy])
  | _, _, _ => pure ([], [])
 pure (.combine (hit.flatMap (·.1)), .combine (hit.flatMap (·.2)))

def patArgTys (args : Nodes) (subj : Ty) : Eval Tys := do
 let add tys := modify (·.zipWith (· ++ [·]) tys)
 let (_, tys) <- .run (s := args.map fun _ => []) (mapExpanded (m := StateT (List Tys) Eval) subj fun part _ _ => do
  if !part.isObj then add (args.map fun _ => .unk)
  else
   let names <- namesForArgs part.clsObj args
   for mem in subj.subtys do
    let obj <- firm mem
    if obj.isAnyLike then add (args.map fun _ => obj)
    else if obj.isObj then
     add (<- (args.zipIdx.mapM fun (arg, idx) => narrowPatArg (narrowPatIn Node.maxHeight) arg idx names true part.clsObj))
  return none)
 return tys.map (.combine ·)

def assignPatIn : Nat -> Bool -> Node -> Ty -> Eval Ty
 | 0, _, _, ty => pure ty
 | fuel + 1, draft, pat, ty => do
  let hit <- narrowByPat pat true ty
  let give tgt ty := Evals.assignToExpr tgt {ty, draft} tgt false false
  let recur pat ty := discard (assignPatIn fuel draft pat ty)
  match pat.kind with
  | .patSequence ents star =>
   let views := (<- seqViews (narrowPatIn Node.maxHeight) pat ents star hit).filter (!·.isOut)
   for (ent, idx) in ents.zipIdx do recur ent (.combine (<- views.mapM (seqEnt pat · idx ents.length star true)))
  | .patAs pats tgt =>
   if let some tgt := tgt then give tgt hit
   let mut rest := hit
   for pat in pats do
    recur pat rest
    rest <- narrowByPat pat false rest
  | .patCapture tgt _ isWildcard =>
   if !isWildcard then give tgt hit
   else if !draft then
    if hit.isUnk then flag .unkVarTy "wildcardPatTyUnk" tgt
    else if (<- univ).isPartlyUnk hit then
     let notes := Adden.empty.say "tyOfSym" ["_", <- printTy hit {expandAlias := true}]
     flag .unkVarTy "wildcardPatTyPartlyUnk" tgt [] notes
  | .patMapping ents =>
   let views <- mappingViews pat hit
   for ent in ents do
    let (keyTy, valTy) <- mappingEntTys pat ent views
    match ent.kind with
    | .patKeyEnt key val =>
     recur key keyTy
     recur val valTy
    | .patExpandEnt tgt =>
     let dict <- builtinTy pat "dict"
     give tgt (if dict.isClsObj then (dict.spec (some [keyTy, valTy])).clsInst else .unk)
    | _ => pure ()
  | .patCls _ args =>
   for (arg, ty) in args.zip (<- patArgTys args hit) do if let .patClsArg _ pat := arg.kind then recur pat ty
  | _ => pure ()
  pure hit

def checkUnusedPat (subj : Ty) : Act := do
 let isWildcard pat := if let .patAs [only] _ := pat.kind then (only.kind matches .patCapture _ _ true) else false
 let complain pat subj := do
  if !isWildcard pat then flag .idleCompare "patNeverMatches" pat [<- printTy subj]
 if subj.isNever then return <- complain pat subj
 let pats := if let .patAs (first :: second :: rest) _ := pat.kind then first :: second :: rest else [pat]
 let mut rest := subj
 for pat in pats do
  if (<- narrowByPat pat true rest).isNever then complain pat rest
  if pats.length > 1 then rest <- narrowByPat pat false rest

def narrowByCases (cases : Nodes) (subj : Ty) :=
 cases.foldlM (fun ty clause => if let .caseClause pat _ none _ := clause.kind then narrowByPat pat false ty
  else pure ty) subj

def evalMatch : Act := do
 if <- isTyCached node then return
 let .matchStmt _ subj cases := node.kind | return
 let res <- tyOf subj
 writeTy node {ty := <- narrowByCases cases res.ty, draft := res.draft}

def evalCase : Act := do
 if <- isTyCached node then return
 let some (.matchStmt _ subj cases) <- parentKind? node | return
 let .caseClause pat .. := node.kind | return
 let res <- tyOf subj
 let ty <- narrowByCases (cases.takeWhile (· != node)) res.ty
 if !res.draft then if (<- rulesOf node).level .idleCompare != .none then checkUnusedPat pat ty
 let ty <- assignPatIn Node.maxHeight res.draft pat ty
 writeTy node {ty, draft := res.draft}

def checkClsPat (name : Node) (args : Nodes) : Act := do
 let ty := (<- tyOf name .base).ty
 let ty := ty.special?.getD ty
 if ty.isAnyLike then return
 if ty.aliasUse?.isSome && ty.isClsObj && ty.tyArgs?.isSome && ty.cls.hasOwnArgs then
  blame "clsPatTyAlias" name [<- printTy ty]
 else if !ty.isClsObj then
  if !ty.isNever then blame "tyNotCls" name [<- printTy ty]
 else
  let nameOf arg := if let .patClsArg name _ := arg.kind then name else none
  let isSelf <- isSelfMatching ty
  if let (true, [some only]) := (isSelf, args.map nameOf) then blame "clsPatBuiltInArgPos" only
  let got := (args.takeWhile fun arg => (nameOf arg).isNone).length
  let goal <- if isSelf then pure 1 else (·.length) <$> namesForArgs ty args
  if let some extra := (args[goal]?).filter fun _ => got > goal then
   blame "clsPatPosArgNum" extra [ty.clsName, s!"{goal}", s!"{got}"]

def subjNarrowing? (ref subj : Node) : Eval (Option (Ty -> Eval Typed?)) := do
 match subj.kind with
 | .idx base [item] false =>
  let .arg .simple _ subscript := item.kind | pure none
  if !ref.matchesRef base then return none
  let key <- tyOf subscript
  if !key.ty.isObj || !key.ty.isLitTy || !key.ty.isBuiltIn ["int", "str"] then return none
  let whole <- tyOf base .base
  return some fun narrowed => do
   let parts <- narrowed.subtys.mapM firm
   if parts.any fun part => !part.isNever && !(part.isLitTy) then return none
   let tys <- (parts.filter (!·.isNever)).mapM fun part => match key.ty.lit? with
    | some (.text name) => narrowByEnt name.toString part true whole.ty
    | some (.int idx _) => narrowByTupEnt idx part true whole.ty
    | _ => pure whole.ty
   return some {ty := .combine tys, draft := key.draft || whole.draft}
 | .tup items _ =>
  let some idx := items.findIdx? (ref.matchesRef ·) | pure none
  let res <- tyOf (items.getD idx subj)
  return some fun narrowed => do
   let tys := narrowed.subtys.mapM fun part =>
    if part.isTupObj && part.tupArgs.all (!·.isUnb) && idx < part.tupArgs.length then
     (part.tupArgs[idx]?).map (·.ty)
    else if narrowed.isNever then narrowed else none
   return tys.map ({ty := .combine ·, draft := res.draft})
 | .memAccess base mem =>
  if !ref.matchesRef base then return none
  let whole <- tyOf base .base
  return some fun narrowed => do
   if narrowed.isNever then return Ty.never
   if !narrowed.isLitOrUnion then return none
   return <- narrowed.mapM (some <$> narrowByField mem.nameVal · true whole.ty)
 | _ => pure none

end TypeChecker.Infer
