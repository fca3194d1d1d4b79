import TypeChecker.Infer.Index

/-! The types of tuples, lists, sets, dictionaries and comprehensions. -/

namespace TypeChecker.Infer
open Match Want
variable [Evals]
def maxInferredEnts := 64
def maxBoxDepth := 8

variable (flags : EvalFlags)
def EvalFlags.ofEntries := {flags with tyExpr := false, strLitAsTy := false, instaTy := false}
def EvalFlags.stripping := {flags with stripTupLits := true}

variable (node : Node) (want : Ty) (ents : Tys) (flags : EvalFlags) (results : List Typed)
def wantMem? (evaluate : Ty -> Eval Typed?) : Eval Ty? := do
 if !want.isUnion then return want
 let mut hit : Option (Ty × Bool) := none
 for mem in (<- univ).sortTys want.subtys do
  if !(hit matches some (_, false)) then
   if let some res <- trying node (evaluate mem) then
    if (hit.isNone || !res.tyErrs) && (<- canAssign mem res.ty) then hit := (mem, res.tyErrs)
 return hit.map (·.1)

def wantArgs? (box want : Ty) := do
 if !box.isClsObj then return none
 let live <- tyVarScopes node
 let (fits, constrs) <- constrained {} (expectTy box.clsInst want live node.start)
 if !fits then return none
 pure (<- solve box constrs).tyArgs?

def wantEnt? (box : Ty?) (want : Ty) := do
 let some box := box | pure none
 if !box.isClsObj then return none
 if want.isAnyLike then return want
 if !want.isObj then return none
 return (<- wantArgs? node box want).bind (·.head?)

def fitEnts? (isNarrowable : Bool) : Eval Ty? := do
 if want.isAny then return want
 let (fits, constrs) <- constrained {} (ents.allM (assign want ·))
 if !fits then return none
 if isNarrowable && !ents.isEmpty then
  let joined := Ty.combine ents
  if (<- univ).containsLit want then return joined
  return <- stripLit joined
 let solved <- solve want constrs (<- unsolvedIn [])
 let u <- univ
 pure (solved.map fun mem => if let [ent] := ents then
   if mem.isCls && ent.isCls && (u.flags ent).tdict && mem.isSame ent {ignoreNarrowedEnts := true} then
    mem.withCls ({· with narrowedEnts := ent.cls.narrowedEnts})
   else mem
  else mem)

def joinEnts (isStrict : Bool) (fallback : Ty) :=
 if ents.isEmpty then fallback
 else if isStrict then .combine ents false maxInferredSubtys
 else if Ty.areAllSame ents {ignorePseudo := true} then ents.headD fallback
 else fallback

def boxRes (name : String) (args : Tys) (isEmpty draft tyErrs : Bool) : Eval Typed := do
 let box <- builtinTy node name
 let ty := if box.isClsObj then (box.spec args true false none isEmpty).clsInst else .unk
 return if draft && ty.boxDepth > maxBoxDepth then .unk else {ty, draft, tyErrs}

def checkHashable (ty : Ty) (isKey : Bool) : Act := do
 if !(<- isHashable ty) then
  let notes := Adden.empty.say "unhashTy" [<- printTy ty]
  report .unhashable ((if isKey then say "unhashDictKey" else say "unhashSetEntry") ++ notes.print) node

/-! Comprehensions. -/

def evalClause : Ask := do
 match node.kind with
 | .comprFor asyncToken tgt iterable =>
  let res <- tyOf iterable
  let ty <- stripLit res.ty
  let item <- iterated {ty, draft := res.draft} asyncToken.isSome iterable
  Evals.assignToExpr tgt (item.getD {ty := .unk, draft := res.draft}) iterable false false
  pure res.draft
 | .comprIf test =>
  discard (tyOf test)
  pure false
 | _ => pure false

def elemOf (wantVal wantKey : Ty? := none) : Eval Typed := do
 let .compr expr clauses _ _ := node.kind | pure .unk
 let mut draft := false
 for clause in clauses do if <- evalClause clause then draft := true
 let evaluate expr want := tyOf expr flags (make want)
 match expr.kind with
 | .dictKeyEnt key val =>
  let strip ty want := do
   let u <- univ
   if want.any (u.containsLit ·) then pure ty else stripLit ty
  let key <- evaluate key wantKey
  let keyTy <- strip key.ty wantKey
  let val <- evaluate val wantVal
  let valTy <- strip val.ty wantVal
  return {ty := <- tupObj [{ty := keyTy}, {ty := valTy}], draft := draft || key.draft || val.draft
          tyErrs := key.tyErrs || val.tyErrs}
 | .dictExpandEnt expr =>
  discard (evaluate expr wantVal)
  pure {ty := .unk, draft}
 | _ =>
  let res <- evaluate expr wantVal
  pure {ty := res.ty, draft := draft || res.draft, tyErrs := res.tyErrs}

def tyOfCompr (want : Want?) : Eval Typed := do
 let .compr expr clauses _ _ := node.kind | pure .unk
 let isAsync := expr.hasAwait || clauses.zipIdx.any fun (clause, idx) =>
  clause.kind matches .comprFor (some _) .. || (idx > 0 && clause.hasAwait)
 let gen <- typingTy? node (if isAsync then "AsyncGenerator" else "Generator")
 let ent <- if let some want := want then wantEnt? node gen want.ty else pure none
 let elem <- elemOf node (EvalFlags.stripping flags) ent
 let u <- univ
 let ty <- if ent.any (u.containsLit ·) then pure elem.ty else stripLit elem.ty
 let empty <- noneTy
 pure {elem with
  ty := if let some gen := gen.filter (·.isClsObj) then
    (gen.spec (if isAsync then [ty, empty] else [ty, empty, empty])).clsInst
   else .unk}

/-! Tuples. -/

def tupEnts (stripsLits convertMod : Bool) : Eval (List TyTupArg) := do
 let parts <- results.mapM fun res => do
  let unp := res.unpTy.or (if res.ty.isUnp then res.ty else none)
  if let some args := unp.filter (·.isObj) |>.bind (·.tupArgs?) then pure args
  else
   if res.ty.isNever && res.draft && res.unpTy.isNone then return [({ty := .draftUnk} : TyTupArg)]
   let ty <- runtimeVal res.ty {} convertMod
   let ty <- if stripsLits then .stripTyForm <$> stripLit ty else pure ty
   pure [{ty, isUnb := res.unpTy.isSome}]
 let ents := parts.flatten
 let isUnb ent := ent.isUnb
 if (ents.filter isUnb).length <= 1 then return ents
 let rest := ents.dropWhile (!isUnb ·)
 return ents.takeWhile (!isUnb ·) ++ [{ty := .combine (rest.map (·.ty)), isUnb := true}]

def maxTupEnts := 256

def mergeNotes : Adden? :=
 let notes := results.filterMap (·.wantDiag)
 if notes.isEmpty then none else some (notes.foldl .addChild .empty)

variable (items : Nodes) (flags : EvalFlags)
def tupIn? (want : Ty) : Eval Typed? := do
 let u <- univ
 let want := u.unrollAlias want
 if !want.isObj then return none
 let some tup <- tupCls? | pure none
 let count := items.length
 let mut goal := []
 if let (true, some args) := (want.isTup, want.tupArgs?) then
  goal := args.map (u.unrollAlias ·.ty)
  if let some idx := args.findIdx? (·.isUnb) then
   goal := if goal.length > count then goal.eraseIdx idx else Tup.repeatAt goal idx count (goal.getD idx .unk)
 else
  let some [ent] <- wantArgs? node tup want | return none
  goal := .replicate count (u.unrollAlias ent)
 let results <- items.zipIdx.mapM fun (item, idx) => tyOf item (EvalFlags.stripping flags) (make goal[idx]?)
 let ents <- if count > maxTupEnts && results.any (·.tyErrs) then pure [({ty := .unk, isUnb := true} : TyTupArg)]
  else tupEnts results false false
 return some {ty := <- tupObj ents, draft := results.any (·.draft), wantDiag := mergeNotes results}

variable (want : Want?)
def tyOfTup : Eval Typed := do
 if flags.tyExpr && !((<- parentKind? node) matches some (.arg ..)) then
  badForm "tupInHint" node [] (.ofMsg (say "useTup"))
  return .unk
 if flags.instaTy && items.isEmpty && want.isNone then return {ty := <- tupObj [], isEmptyTup := true}
 let flags := EvalFlags.ofEntries flags
 let mut notes := none
 let containsAny := want.any (·.ty.subtys.any (·.isAny))
 if let some want := want then
  if let some mem <- wantMem? node want.ty (tupIn? node items flags) then
   let some res <- tupIn? node items flags mem | pure ()
   if !res.tyErrs then return res
   notes := res.wantDiag
 let results <- items.mapM (tyOf · (EvalFlags.stripping flags))
 let draft := results.any (·.draft)
 let mut res : Typed := .unk
 if items.length > maxTupEnts then res := <- tupObj [{ty := .unk, isUnb := true}]
 else
  let ty <- tupObj (<- tupEnts results flags.stripTupLits true)
  if !(draft && ty.boxDepth > maxBoxDepth) then res := {ty, draft}
 pure {res with ty := if containsAny then .any else res.ty, wantDiag := notes}

/-! Lists and sets. -/

def listIn? (name : String) (flags : EvalFlags) (want : Ty) : Eval Typed? := do
 let want := (<- univ).unrollAlias want
 let some entTy <- wantEnt? node (<- builtinTy node name) want | pure none
 let results <- items.mapM fun item => do
  let res <- if item.isCompr then elemOf item (EvalFlags.stripping flags) entTy
   else tyOf item (EvalFlags.stripping flags) (make entTy)
  if name == "set" && !res.draft && !res.tyErrs then checkHashable item res.ty false
  pure res
 let isInvar <- if want.isObj then do
   Evals.inferVariance want
   pure (((<- univ).tyPars want).any (·.var.variance == .invar))
  else pure false
 let made : Typed := {ty := .unk, draft := results.any (·.draft), tyErrs := results.any (·.tyErrs)
                      wantDiag := ((mergeNotes results).getD .empty)}
 if let some ent <- fitEnts? entTy (results.map (·.ty)) (!isInvar) then
  return some {made with ty := <- builtinObj node name (some [ent])}
 else return some {made with tyErrs := true}

def tyOfListOrSet (isList : Bool) (flags : EvalFlags) (want : Want?) : Eval Typed := do
 let name := if isList then "list" else "set"
 if flags.tyExpr && isList && !((<- parentKind? node) matches some (.arg ..)) then
  badForm "listInHint" node [] (.ofMsg (say "useList"))
 let flags := EvalFlags.ofEntries flags
 let mut notes := none
 if let some want := want then
  if let some mem <- wantMem? node want.ty (listIn? node items name flags) then
   let some res <- listIn? node items name flags mem | pure ()
   if !res.tyErrs then return res
   notes := res.wantDiag
 let isWant := want.isSome
 let results <- items.mapM fun item => do
  let res <- if item.kind matches .compr _ _ false _ then elemOf item (EvalFlags.stripping flags)
   else tyOf item (EvalFlags.stripping flags)
  let ty := (<- runtimeVal res.ty flags (!isWant)).stripTyForm
  if !isList && !res.draft && !res.tyErrs then checkHashable item ty false
  pure {res with ty}
 let tys <- (if isWant then results else results.take maxInferredEnts).mapM (stripLit ·.ty)
 let isStrict <- isOn node (if isList then .strictListInference else .strictSetInference)
 let ent := joinEnts tys (isStrict || isWant) (if isWant then .any else .unk)
 let res <- boxRes node name [ent] tys.isEmpty (results.any (·.draft)) (results.any (·.tyErrs))
 pure {res with wantDiag := notes}

/-! Dictionaries. -/

structure DictEnts where
 (keys vals : Array Typed := #[])
 (draft tyErrs : Bool := false)

structure DictExpectation where
 (key val : Ty? := none)
 ents : Option TdictEnts := none
 isStrict := true
 isInvar := false

def fitVal (res : Typed) (want : Ty?) (isNarrowable : Bool) : Eval Typed := do
 let some want := want | pure res
 if res.tyErrs then return res
 pure {res with ty := (<- fitEnts? want [res.ty] isNarrowable).getD res.ty}

def dictEnts (want : DictExpectation) : Match DictEnts := do
 let live <- tyVarScopes node
 let mut hit := {}
 let stripping := EvalFlags.stripping flags
 let strictly := if want.isStrict then some .never else none
 for (item, idx) in items.zipIdx do
  let counts := want.isStrict || idx < maxInferredEnts
  let add (hit : DictEnts) (key val : Ty) (node valNode : Node := item) :=
   {hit with keys := hit.keys.push {ty := key, node}
             vals := hit.vals.push {ty := val, node := valNode}}
  let note hit res := {hit with draft := hit.draft || res.draft, tyErrs := hit.tyErrs || res.tyErrs}
  let mut pairs := none
  match item.kind with
  | .dictKeyEnt keyNode valNode =>
   let key <- tyOf keyNode (EvalFlags.stripping (EvalFlags.ofEntries flags)) (make (want.key.or strictly))
   hit := note hit key
   if !key.draft && !key.tyErrs then checkHashable keyNode key.ty true
   key.wantDiag.forM attach
   let named : Ty? := match key.ty.lit?, want.ents with
    | some (.text name), some ents =>
     if key.ty.isObjOf "str" then ((ents.known.lookup name.toString).or ents.extra).map (·.valTy)
     else none
    | _, _ => none
   let goal := (named.or (want.val.or strictly)).map ((<- univ).unifyVarsOutside live node.start)
   let val <- fitVal (<- tyOf valNode stripping (make goal)) goal (!want.isInvar)
   val.wantDiag.forM attach
   hit := note hit val
   if counts then
    if key.ty.isCls && key.ty.isLitTy then
     if let some old := hit.keys.findIdx? fun known => key.ty.isSame known.ty then
      hit := {hit with keys := hit.keys.eraseIdxIfInBounds old, vals := hit.vals.eraseIdxIfInBounds old}
    hit := add hit key.ty val.ty keyNode valNode
   pairs := some []
  | .dictExpandEnt expr =>
   let mapping <- clsOf? (·.supportsKeysAndGetItem)
   let goal := match want.key, want.val, mapping with
    | some key, some val, some mapping => (mapping.spec [key, val]).clsInst
    | _, _, _ => none
   let res <- fitVal (<- tyOf expr stripping (make goal)) goal (!want.isInvar)
   hit := note hit res
   let ty := res.ty
   if ty.isAnyLike then pairs := [(ty, ty)]
   else if ty.isObj && (<- flagsOf ty).tdict then
    let str <- instOf (·.strCls)
    let ents <- typedEnts ty true
    for (name, ent) in ents.known do
     if ent.isReq || ent.isProvided then hit := add hit (str.setLit (some (.text (.ofString name)))) ent.valTy
    if want.ents.isNone then
     let obj <- objTy
     hit := add hit str (if let some ent := ents.extra then ent.valTy else obj)
    pairs := some []
   else if let some mapping := mapping then
    let mapping := (<- univ).selfSpec mapping
    let (fits, constrs) <- constrained {} (assign mapping.clsInst ty {retainLits := true})
    if fits then
     if let key :: val :: _ := (<- solve mapping constrs).tyArgs then pairs := [(key, val)]
    else blame "dictUnpIsNotMapping" item
  | .compr .. =>
   let res <- elemOf item stripping want.val want.key
   hit := note hit res
   if res.ty.isTupObj then
    if let some [key, val] := res.ty.tupArgs? then pairs := [(key.ty, val.ty)]
  | _ => pure ()
  if counts then for (key, val) in pairs.getD [(.unk, .unk)] do hit := add hit key val
 pure hit

def dictIn? (want : Ty) : Match Typed? := do
 let want := (<- univ).unrollAlias want
 let goal <- firm want
 if !goal.isObj then return none
 if (<- flagsOf goal).tdict then
  let goal := goal.setConds []
  let hit <- dictEnts node items flags {ents := <- typedEnts goal, isInvar := true}
  let isClean := ((<- get).notes.getD .empty).isEmpty
  let fit := fitTdict goal hit.keys.toList hit.vals.toList
  let some ty <- if isClean then fit else quietly fit | return none
  return some {ty, draft := hit.draft}
 let mut args := [want, want]
 if !want.isAnyLike then
  let some [key, val] <- wantArgs? node (<- builtinTy node "dict") want | return none
  args := [key, val]
 let [key, val] := args | pure none
 let isInvar := want.isObj && ((<- univ).tyPars want)[1]?.any (·.var.variance == .invar)
 let hit <- dictEnts node items flags {key, val, isInvar}
 let keyArg <- fitEnts? key (hit.keys.toList.map (·.ty)) false
 let valArg <- fitEnts? val (hit.vals.toList.map (·.ty)) (!isInvar)
 let (some keyArg, some valArg) := (keyArg, valArg) | pure none
 return some {ty := <- builtinObj node "dict" (some [keyArg, valArg]), draft := hit.draft, tyErrs := hit.tyErrs}

def tyOfDict : Eval Typed := do
 if flags.tyExpr && !((<- parentKind? node) matches some (.arg ..)) then
  badForm "dictInHint" node [] (.ofMsg (say "useDict"))
 let mut notes := none
 if let some want := want then
  if let some mem <- wantMem? node want.ty fun ty => plain (dictIn? node items flags ty) then
   let (res, why) <- explained (dictIn? node items flags mem)
   if let some res := res then return res
   notes := why
 let isWant := want.isSome
 let fallback := if isWant then .any else .unk
 let hit <- plain (dictEnts node items flags {isStrict := isWant})
 let strip results := results.toList.mapM fun res => do
  pure (<- runtimeVal (<- stripLit res.ty) flags (!isWant)).stripTyForm
 let keys <- strip hit.keys
 let vals <- strip hit.vals
 let isStrict := isWant || (<- isOn node .strictDictInference)
 let join tys := if tys.isEmpty then fallback else if isStrict then .combine tys else joinEnts tys false fallback
 let res <- boxRes node "dict" [join keys, join vals] vals.isEmpty hit.draft hit.tyErrs
 pure {res with wantDiag := notes}

end TypeChecker.Infer
