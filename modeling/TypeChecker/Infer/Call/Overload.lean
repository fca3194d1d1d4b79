import TypeChecker.Infer.Constructor

/-! Choosing an overload: the first one whose parameters take the arguments. Functions with some of their arguments
given, and classes that get the missing comparisons, whose results no signature says. -/

namespace TypeChecker.Infer
variable [Evals]
structure OvlMatch where
 lining : Lining
 constrs : Constrs
 retTy : Ty
 argResults : List ArgRes
 deriving Inhabited

variable (hit : List OvlMatch)
def preferMany :=
 let many := hit.filter (·.lining.unpMapsToMany)
 if hit.length < 2 || many.isEmpty then hit else many

def dropAmbiguous : List OvlMatch :=
 if let first :: _ :: _ := hit then
  if Ty.areAllSame (hit.map (·.retTy)) {anyIsUnk := true} then [first] else
  let isAmbiguous := first.argResults.zipIdx.any fun (res, idx) =>
   res.argTy.isAnyLike && !Ty.areAllSame (hit.map fun other =>
    (other.lining.matched[idx]?).elim .unk (·.parTy)) {anyIsUnk := true}
  if isAmbiguous || hit.any (·.argResults.length != first.argResults.length) then hit else [first]
 else hit

def ambiguousRet (draft : Bool) : Eval Ty := do
 let mut kept := #[]
 let mut includesAny := false
 for pick in hit do
  let ret := pick.retTy
  let mut isSubsumed := false
  for idx in [:kept.size] do
   let known := kept[idx]!
   let isWider <- canAssign known ret
   if <- pure isWider <||> canAssign ret known then
    if let some any := (<- univ).findAnyOrUnk? (if isWider then known else ret) false then
     includesAny := includesAny || any.isAny
    else if isWider then isSubsumed := true
    else kept := kept.set! idx .never
    break
  if !isSubsumed then kept := kept.push ret
 let tys := kept.toList.filter (!·.isNever)
 let combined := .combine tys
 if tys.length <= 1 then return combined
 return if includesAny then .any else {form := .unk draft combined}

structure OvlAttempt where
 res : CallRes
 linings : List Lining
 constrs : Constrs?

variable (ty : Ty) (site : Node) (args : List Arg)
def tryOvls (expanded : List (List Ty?)) (linings : List Lining)
  (start : Constrs?) (opts : CallOpts) : Eval OvlAttempt := do
 let node <- speculNode site
 let mut linings := linings
 let mut retTys := #[]
 let mut matched := #[]
 let mut draft := false
 let mut used := #[]
 let mut isDefinite := false
 for given in expanded do
  let mut possible := #[]
  let mut isUncertain := false
  let mut hasMatch := false
  isDefinite := false
  let isPlain := given.all (·.isNone)
  for (lining, idx) in linings.zipIdx do
   let tried := if isPlain then lining else
    {lining with matched := lining.matched.mapIdx fun idx ent => if let some (some ty) := given[idx]? then
         {ent with argTy := ty}
     else ent}
   let (res, constrs) <- trying node (checkInCtx site tried (start.getD {}) {opts with skipUnkCheck := true})
   draft := draft || res.draft
   if isPlain then linings := linings.set idx {lining with score := res.score}
   if let (false, some retTy) := (res.argErrs, res.retTy) then
    used := used.push lining.ovl
    hasMatch := true
    let hit := {lining := tried, constrs, retTy, argResults := res.argResults.getD []}
    matched := matched.push hit
    if res.anyOrUnkArg.isSome || tried.unpOfUnkLength then
     possible := possible.push hit
     isUncertain := isUncertain || res.anyOrUnkArg.any (·.isDraftUnk)
    else
     retTys := retTys.push retTy
     isDefinite := true
     break
  if !isDefinite && !possible.isEmpty then
   match dropAmbiguous (preferMany possible.toList) with
   | [only] =>
    used := #[only.lining.ovl]
    retTys := retTys.push only.retTy
    matched := #[only]
   | several => retTys := retTys.push (<- ambiguousRet several isUncertain)
  if !hasMatch then return {res := {argErrs := true, draft, ovlsUsed := used.toList}, linings, constrs := start}
 let first := matched[0]?.getD default
 let final := if let some start := start then
   if isDefinite then matched.back?.elim start (·.constrs) else start
  else first.constrs
 let (res, constrs) <- checkInCtx site first.lining final opts
 return {res := {argErrs := res.argErrs, anyOrUnkArg := res.anyOrUnkArg, retTy := some (.combine retTys.toList)
                 draft := draft || res.draft, initSelfTy := res.initSelfTy, ovlsUsed := used.toList}
         linings, constrs := start.map fun _ => constrs}

def maxArgExpansion := 64
def maxTotalExpansion := 256

def expandArgTy : Eval (Option Tys) := do
 let parts <- (<- firm ty).subtys.mapM fun part => do
  if !part.isObj then return [part]
  if let some lits <- litsOf? part then if lits.length <= maxArgExpansion then return lits
  return (Tup.expand part maxArgExpansion).getD [part]
 let parts := parts.flatten
 return if parts.length > 1 then parts else none

def expandArgTys (tys : Tys) (expanded : List (List Ty?)) : Eval (Option (List (List Ty?))) := do
 let first := expanded.head?.getD []
 let start := if let some (_, idx) := (first.zipIdx.filter (·.1.isSome)).getLast? then idx + 1 else 0
 for idx in [start:tys.length] do
  if let some parts <- expandArgTy (tys[idx]?.getD .unk) then
   return expanded.flatMap fun given => parts.map (given.set idx ·)
 pure none

def bestLining (first : Lining) (rest : List Lining) :=
 rest.foldl (fun best lining =>
  if lining.score == best.score then if lining.idx > best.idx then lining else best
  else if lining.score < best.score then lining else best) first

def argTyTexts :=
 args.mapM fun arg => do
  let text <- printTy (<- tyOfArg arg).ty
  return (match arg.cat with
   | .unpList => "*"
   | .unpDict => "**"
   | .simple => "") ++ text

def shownFn := if ty.fn.name == "" then "<anonymous function>" else ty.fn.name

def searchOvls (start : Constrs?)
  (opts : CallOpts) : Nat -> Tys -> List (List Ty?) -> Bool -> List Lining ->
  Eval (Option (CallRes × Constrs?) × Bool × List Lining)
 | 0, _, _, draft, linings => pure (none, draft, linings)
 | fuel + 1, tys, expanded, draft, linings => do
  let attempt <- tryOvls site expanded linings start opts
  let draft := draft || attempt.res.draft
  if !attempt.res.argErrs then return ((attempt.res, attempt.constrs), draft, attempt.linings)
  let tys <- if !tys.isEmpty then pure tys else
   trying (<- speculNode site) (args.mapM fun arg =>
    match arg.res, arg.val with
    | some res, _ => pure res.ty
    | none, some val => trying val ((·.ty) <$> tyOf val)
    | none, none => pure .any)
  let some expanded <- expandArgTys tys expanded | pure (none, draft, attempt.linings)
  if expanded.length > maxTotalExpansion then return (none, draft, attempt.linings)
  searchOvls start opts fuel tys expanded draft attempt.linings

def validateOvls (callee : Typed) (start : Constrs?) (opts : CallOpts) : Eval (CallRes × Constrs?) := do
 let ovls := callee.ty.ovls
 let linings <- trying (<- speculNode site)
  (ovls.zipIdx.mapM fun (ovl, idx) => lineUpArgs site args {ty := ovl, draft := callee.draft} idx)
 match linings.filter (!·.failed) with
 | [] =>
  if !(<- canSkipDiag site) then
   let name := ovls.head?.elim "<anonymous function>" shownFn
   flag .callIssue "noOvld" site [name] (.ofMsg (say "argTys" [commaList (<- argTyTexts args)]))
  pure ({argErrs := true, draft := callee.draft}, start)
 | [only] =>
  let (res, constrs) <- checkInCtx site only (start.getD {}) {opts with skipUnkCheck := false}
  pure (res, start.map fun _ => constrs)
 | linings =>
  let (hit, draft, linings) <- searchOvls site args start opts (args.length + 1) []
   [args.map fun _ => none] callee.draft linings
  if let some hit := hit then return hit
  if !(<- canSkipDiag site) && !draft then
   if let first :: rest := linings then
    let best := bestLining first rest
    flag .callIssue "noOvld" site [shownFn best.ovl]
    let (res, constrs) <- checkInCtx site best (start.getD {}) {opts with skipUnkCheck := true}
    return ({res with retTy := some .unk, argErrs := true} , start.map fun _ => constrs)
  pure ({argErrs := true, draft}, start)

structure Given where
 names : ByName Bool := []
 (failed reportedCount : Bool := false)
 constrs : Constrs := {}

variable (site : Node?)
def giveArg (fn : Ty) (val : Node) (parTy : Ty) (name : String) (given : Given) : Eval Given := do
 let arg := (<- tyOf val {} (Want.make parTy)).ty
 let (fits, constrs) <- Match.constrained given.constrs (assign parTy arg)
 if !fits && site.isSome then
  flag .argumentTy "argPutParFn" val [<- printTy arg, name, <- printTy parTy, fn.fn.name]
 pure {given with constrs, failed := given.failed || !fits}

variable (args : List Arg)
def giveArgs (fn : Ty) : Eval Given := do
 let list := (<- univ).parList fn
 let atIdx par := fn.parTy (par.idx.getD 0)
 let mut given := {}
 for (arg, idx) in args.zipIdx do
  let some val := arg.val | continue
  match arg.name with
  | none =>
   match list.pars[idx]?.filter (·.kind != .kw), list.args? with
   | some par, _ =>
    given <- giveArg site fn val (fn.parTy idx) par.name given
    given := {given with names := setEnt given.names par.name false}
   | none, some par => given <- giveArg site fn val (atIdx par) par.name given
   | none, none =>
    if !given.reportedCount && site.isSome then report .callIssue (LineUp.byPosMsg list.posCount) val
    given := {given with reportedCount := true, failed := true}
  | some nameNode =>
   let name := nameNode.nameVal
   match list.pars.find? fun par => par.name? == some name && par.kind != .byPos with
   | none =>
    if let some par := list.kwargs? then given <- giveArg site fn val (atIdx par) par.name given
    else
     if site.isSome then flag .callIssue "parNameGone" nameNode [name]
     given := {given with failed := true}
   | some par =>
    if (given.names.lookup name).isSome then
     if site.isSome then flag .callIssue "parTwice" nameNode [name]
     given := {given with failed := true}
    else
     given <- giveArg site fn val par.ty name given
     given := {given with names := setEnt given.names name true}
 pure given

def restFn? (call fn : Ty) : Eval (Option (Ty × Bool)) := do
 let given <- giveArgs site args fn
 let specd <- solve fn given.constrs
 if !specd.isFn then return none
 let u <- univ
 let mut updated := #[]
 for ((par, ty), idx) in (Ty.typedPars specd.fn).zipIdx do
  let mut ty := ty
  if par.cat == .kwargsDict && ty.isObj && ty.isUnpCls && (u.flags ty).tdict then
   let ents <- typedEnts ty
   let narrowed := ents.known.foldl (fun narrowed (name, ent) =>
    if (given.names.lookup name).isSome then setEnt narrowed name {ent with isReq := false}
    else narrowed) (ty.cls.narrowedEnts.getD [])
   ty := (ty.withCls ({· with narrowedEnts := narrowed})).clsInst
  let isNamed := par.name.bind (given.names.lookup ·) == some true
  let default := if isNamed then some .ellipsis else specd.fn.parDflt? idx
  updated := updated.push {par with ty, dfltTy := default, dfltExpr := none}
 let pars := updated.toList
 let isGiven par := par.name.bind (given.names.lookup ·)
 let open_ := pars.filter fun par => par.cat == .argsList || par.cat == .simple && (isGiven par).isNone
 let byName := pars.filter (isGiven · == some true)
 let kwargs := pars.filter (·.cat == .kwargsDict)
 let data := specd.fn
 let ret := if data.declRet.isSome then u.effRet? data else u.inferredRet? data
 return some (.ofFn
  {name := call.fn.name, fullName := call.fn.fullName, modName := call.fn.modName
   flags := call.fn.flags, pars := call.fn.pars.take 1 ++ open_ ++ byName ++ kwargs
   declRet := ret, decl := call.fn.decl, scopeId := data.scopeId}
  , given.failed)

variable (site : Node)
def partialObj? (args : List Arg) (res : Ty) : Eval (Option (Ty × Bool)) := do
 if !res.isObj || res.clsFullName != "functools.partial" then return none
 let some mem <- objMem? res "__call__" {skipInstMems := true} | pure none
 if !mem.clsTy.toInst.isSame res then return none
 let call <- tyOfMem mem
 if !call.isFn || call.fn.pars.isEmpty then return none
 let first :: rest := args | pure none
 let given := (<- tyOfArg first).ty
 let hit <- firm given
 let fn <- if hit.isClsObj then do
   pure ((<- ctorFn hit (if given.isTyVar then given.toInst else none) 0).getD given)
  else pure given
 inferReturns fn
 if args.any (·.cat != .simple) then return none
 let hold (callable : Ty) := res.withCls ({· with partialCall := callable})
 if fn.isFn then return (<- restFn? site rest call fn).map fun (ty, failed) => (hold ty, failed)
 if !fn.isOvld then return none
 let tried <- fn.ovls.filterMapM (restFn? none rest call ·)
 match (tried.filter (!·.2)).map (·.1) with
 | [] =>
  if let (false, ovl :: _) := (tried.isEmpty, fn.ovls) then flag .callIssue "noOvld" site [ovl.fn.name]
  pure none
 | [only] => return some (hold only, false)
 | several => return some (hold (.ofOvls (several.map (·.withFn ({· with flags.ovld := true})))), false)

def addOrdering (args : List Arg) : Act := do
 let [arg] := args | return
 let some ty := arg.res.map (·.ty) | return
 if !ty.isClsObj || ty.cls.orSub then return
 let hit <- ["__lt__", "__le__", "__gt__", "__ge__"].mapM fun name => do
  pure (name, <- objMem? ty.clsInst name {skipInstMems := true})
 let some mem := hit.findSome? (·.2)
  | blame "totalOrderGoneMeth" site return
 let meth <- tyOfMem mem
 let stated := meth.isFn && (meth.fn.pars[1]?).any (·.isTyDecl)
 let operand <- if stated then pure (meth.parTy 1) else builtinObj site "object"
 let bool <- builtinObj site "bool"
 if !stated && !operand.isObj || !bool.isObj then return
 for (name, mem) in hit do
  if mem.isNone then
   addField ty name clsMemFlags (.meth name [Ty.par "self" ty.selfVar, Ty.par "__value" operand] bool)

def construct (args : List Arg) (ty : Ty) (opts : CallOpts) : Eval CallRes := do
 let ty <- if let some use := ty.aliasUse? then
   if ((<- univ).aliasAt use.shared.id).tyPars.isSome && use.tyArgs.isNone then
    pure ((<- univ).applySol ty {} (<- unsolvedIn [use.shared.scopeId]))
   else pure ty
  else pure ty
 if let some res <- checkMclsCall site args ty opts true then
  if <- pure res.argErrs <||> endsAtMcls ty (res.retTy.getD .unk) then
   let _ <- checkMclsCall site args ty opts false
   return res
 let (meth, notes) <- newMeth site ty
 if meth.any (·.tyErrs) then report .general notes.print site
 let isPartial := ty.clsFullName == "functools.partial"
 let make := checkNewAndInit site args ty opts meth
 let res <- trying (if isPartial then site else none) make
 if !isPartial then return res
 if res.argErrs then
  discard make
  return res
 if let some (ret, failed) <- res.retTy.bindM (partialObj? site args) then
  pure {res with retTy := ret, argErrs := failed}
 else
  touchArgs args
  pure res

end TypeChecker.Infer
