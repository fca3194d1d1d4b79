import TypeChecker.Infer.Call.Expression
import TypeChecker.Infer.Flow
import TypeChecker.Infer.Statement

/-! The types of expressions. -/

namespace TypeChecker
namespace Infer
variable [Evals] (node : Node)
def tyOfConstant (kw : Kw) (flags : EvalFlags) : Eval Typed := do
 if kw == .noneKw then
  let some hit := (<- prefetched).noneTyCls | return .unk
  let ty := if flags.instaTy then hit else hit.toInst
  return if <- hasTyForms node then ty.setTyForm ty.toInst else ty
 let bool <- builtinObj node "bool"
 match bool.isObj, kw with
 | true, .trueKw => return bool.setLit (some (.bool true))
 | true, .falseKw => return bool.setLit (some (.bool false))
 | _, _ => pure bool

def tyOfNum (imag : Bool) : Eval Typed := do
 if imag then return <- builtinObj node "complex"
 let some val := node.wholeNum? | builtinObj node "float"
 litObj node "int" (.ofInt val)

variable (strings : Nodes) (fwdRef : Node?) (flags : EvalFlags) (want : Want?)
def tyOfDots : Eval Typed := do
 if flags.dotsToAny then return Ty.ellipsis
 if flags.tyExpr && !flags.allowDots then
  badForm "dotsPlace" node
  return .unk
 builtinObj node "EllipsisType"

def tyOfAwait (expr : Node) (flags : EvalFlags) (want : Want?) : Eval Typed := do
 if flags.tyExpr then
  badForm "awaitBad" node
  return .unk
 let goal <- want.mapM (coroOf node ·.ty false false)
 let res <- tyOf expr flags (Want.make goal)
 let hit <- awaited res expr
 pure {ty := hit.ty, draft := res.draft || hit.draft, tyErrs := res.tyErrs}

def tyOfUnpack (starToken : Token) (expr : Node) (flags : EvalFlags) (want : Want?) : Eval Typed := do
 let iterable <- builtinTy node "Iterable"
 let goal := want.bind fun want => if iterable.isClsObj then (iterable.spec [want.ty]).clsInst else none
 let res <- tyOf expr flags (Want.make goal)
 let ty := res.ty
 if !flags.noTyVarTup && ty.isTupVar && !ty.var.isUnp then return ty.unpackVar
 if flags.allowUnpTup && ty.isClsObj && ty.isTup then return ty.unpack
 if flags.tyExpr then
  report .invalidTyForm (say "unpInHint") node starToken
  return .unk
 let item := (<- iterated res false node).getD {ty := .unkOf res.draft, draft := res.draft}
 pure {ty := item.ty, tyErrs := res.tyErrs, unpTy := ty, draft := item.draft}

def tyOfSlice (parts : List Node?) : Eval Typed := do
 let results <- parts.mapM fun part => if let some part := part then tyOf part else .ofTy <$> noneTy
 let slice <- builtinObj node "slice"
 return if !slice.isObj then slice else {ty := slice.spec (results.map (·.ty)), draft := results.any (·.draft)}

/-! Strings. -/

def isLitText (ty : Ty) := ty.isObj && (ty.isNamed "LiteralString" || (ty.isNamed "str" && ty.hasLit))
def tmplTy : Eval Ty := return (<- clsOf? (·.tmplCls)).elim .unk (·.clsInst)
def litStrTy? : Eval Ty? := return ((<- typingTy? node "LiteralString").filter (·.isClsObj)).map (·.clsInst)

def tyOfStr : Eval Typed := do
 let isBytes := node.strFlags.bytes
 let name := if isBytes then "bytes" else "str"
 match node.kind with
 | .string _ val => litObj node name (.text val)
 | .formatStr _ _ fields _ =>
  let results <- fields.mapM (tyOf ·)
  let draft := results.any (·.draft)
  let isLit := results.all (·.ty.subtys.all isLitText)
  if node.strFlags.tmpl then return {ty := <- tmplTy, draft}
  if isLit && !isBytes then if let some ty <- litStrTy? node then return {ty, draft}
  pure {ty := (<- builtinObj node name).dropPromotions, draft}
 | _ => pure .unk

def readQuoted? (reports : Bool) : Eval Node? := do
 let some string := strings.head? | pure none
 let some bound <- bound? node | pure none
 let pos := string.start + if let .string token _ := string.kind then
   if let .string flags _ prefixLen := token.kind then prefixLen + flags.quoteLen else 0
  else 0
 let val := string.strVal
 let firstId := (<- get).nextNodeIds.getD bound.block bound.src.nextId
 let parsed := parseExpr? (.ofString ("".pushn ' ' pos) ++ val)
  {start := some pos, length := some val.size}
  {isStub := bound.file.isStub, ver := bound.file.ver, reportQuoted := true} .expression
  bound.src.facts.typingNames firstId
 let .ok {tree := some expr, diags, nextId, ..} := parsed | pure none
 if !reports && !diags.isEmpty then return none
 for diag in diags do addToSink node .error diag.msg node
 modify fun s => {s with
  nextNodeIds := s.nextNodeIds.insert bound.block nextId
  anc := s.anc.addBranch node expr
  quoted := if reports then s.quoted.insert node.id expr else s.quoted}
 pure expr

def tyOfQuoted : Eval Typed := do
 let reports := flags.strLitAsTy
 let updated := {flags with fwdRefs := true, instaTy := true, tyFormArg := false
                            notParsed := flags.notParsed || !flags.parsesStrLit}
 let fail name := do
  if reports then blame name node
  pure .unk
 if flags.tyExpr then if let some expr := fwdRef.or ((<- get).quoted[node.id]?) then return <- tyOf expr updated
 if let [string] := strings then
  let kind := string.strFlags
  if kind.bytes then return <- fail "hintBytesStr"
  if kind.raw then return <- fail "hintRawStr"
  if kind.format then return <- fail "annotFmtStr"
  if kind.tmpl then return <- fail "hintTmplStr"
  if let some expr <- readQuoted? node strings reports then
   return <- trying (if reports then none else node) (tyOf expr updated)
 fail "wantTyNotStr"

def maxTyFormLength := 256

def tyOfStrList : Eval Typed := do
 if flags.strLitAsTy && !flags.tyFormArg then return <- tyOfQuoted node strings fwdRef flags
 let isBytes node := node.strFlags.bytes
 if let (some text, some bytes) := (strings.findIdx? (!isBytes ·), strings.findIdx? isBytes) then
  blame "mixingBytesAndStr" (strings.getD (max text bytes) node)
  return .unk
 let results <- strings.mapM tyOfStr
 let name := if strings.any isBytes then "bytes" else "str"
 let mut ty := .unk
 if results.any fun res => res.ty.isObj && res.ty.clsName == "Template" then ty <- tmplTy
 else if strings.any (·.isFormatStr) then
  let text <- if results.all (isLitText ·.ty) then litStrTy? node else pure none
  ty <- if let some text := text then pure text else builtinObj node name
 else ty <- litObj node name (.text (.join "" (strings.map (·.strVal))))
 let mayBeForm := if let [string] := strings then
   let kind := string.strFlags
   string.kind matches .string .. && !(kind.bytes || kind.raw || kind.format || kind.tmpl || kind.triplicate) &&
    string.strVal.size < maxTyFormLength
  else false
 if mayBeForm && (<- hasTyForms node) then
  if let some form := (<- tyOfQuoted node strings fwdRef flags).ty.tyForm? then ty := ty.setTyForm form
 pure {ty, draft := results.any (·.draft)}

/-! All expressions. -/

def checkInstaTy (res : Typed) (flags : EvalFlags) (node : Node) : Eval Typed := do
 if res.draft then return res
 let mut res := res
 if flags.noTyVarTup && res.ty.isTupVar && !res.ty.var.isInUnion then
  badForm "tupVarPlace" node
  res := {res with ty := .unk}
 let u <- univ
 let isType ty := u.actsAsInsta ty true
 if isType res.ty || (res.ty.isObjIn ["EllipsisType", "ellipsis"]) then return res
 if !flags.tyExpr then return {res with tyErrs := true}
 let mut notes := .empty
 if res.ty.isUnion then for mem in res.ty.subtys do if !isType mem then notes := notes.say "tyNotCls" [<- printTy mem]
 blame "tyWantCls" node [<- printTy res.ty] notes
 pure {res with ty := .unk, tyErrs := true}

def tyOfKind : Eval Typed := do
 match node.kind with
 | .name .. => tyOfName node flags
 | .memAccess .. => tyOfAttr node flags
 | .idx .. => tyOfIdx node flags
 | .call .. => trackingSigs node (tyOfCall node flags want)
 | .tup items _ => tyOfTup node items flags want
 | .const kw => tyOfConstant node kw flags
 | .strList strings fwdRef _ => tyOfStrList node strings fwdRef flags
 | .number _ imag => tyOfNum node imag
 | .ellipsis => tyOfDots node flags
 | .unary _ op expr _ => tyOfUnary node op expr flags want
 | .binary _ _ op _ _ => tyOfBinary node {flags with instaTy := flags.instaTy && op == .bitwiseOr} want
 | .augmented lhs op rhs dest => tyOfAug node lhs op rhs dest want
 | .list items => tyOfListOrSet node items true flags want
 | .set items => tyOfListOrSet node items false flags want
 | .slice start stop step => tyOfSlice node [start, stop, step]
 | .await _ expr _ => tyOfAwait node expr flags want
 | .ternary ifExpr test elseExpr => tyOfTernary node ifExpr test elseExpr flags want
 | .compr .. => tyOfCompr node flags want
 | .dict items _ => tyOfDict node items flags want
 | .lambda pars body => tyOfLambda node pars body want
 | .assignment lhs rhs _ _ =>
  let res <- tyOf rhs flags want
  Evals.assignToExpr lhs res rhs true true
  pure res
 | .walrus name _ rhs _ =>
  if flags.tyExpr then flag .invalidTyForm "walrusBarred" node
  let res <- tyOf rhs flags want
  Evals.assignToExpr name res rhs true false
  pure res
 | .yieldExpr expr => tyOfYield node expr
 | .yieldFrom expr => tyOfYieldFrom node expr
 | .unpack token expr => tyOfUnpack node token expr flags want
 | .annot _ hint =>
  tyOf hint {instaTy := true, tyExpr := true, strLitAsTy := true, noParSpec := true
             noTyVarTup := true, varTyAnnot := true}
 | .string .. | .formatStr .. => tyOfStr node
 | .error _ child _ =>
  if let some child := child then discard (muting node false (tyOf child))
  pure .unk
 | _ => pure .unk

def tyOfExpr : Eval Typed := do
 if let some ent <- cacheEnt? node then if !ent.res.draft || ent.epoch == (<- get).epoch then return ent.res
 if let some ent <- speculTy? node (want.map (·.ty)) then
  if !ent.res.draft || ent.epoch == (<- get).epoch then return ent.res
 let u <- univ
 let want := want.map fun want => {want with ty := u.unrollAlias want.ty}
 prefetch node
 let mut res <- tyOfKind node flags want
 if flags.instaTy && !(flags.strLitAsTy && node.kind matches .strList ..) then res <- checkInstaTy res flags node
 if flags.tyExpr && res.ty.tyForm?.isNone && res.ty.special?.any (·.isNamed "TypeAliasType") then
  res := {res with ty := res.ty.setSpec none}
 if res.ty.isClsObj && res.ty.cls.includePromotions && !res.ty.cls.orSub &&
   res.ty.isNamed "bytes" && (<- isOn node .disableBytesTyPromotions) then
  res := {res with ty := res.ty.dropPromotions}
 if let some want := want then res := {res with ty := <- asTyForm want.ty res.ty}
 if node.kind matches .name .. | .memAccess .. then res := {res with ty := <- uniqueSig res.ty node}
 writeTy node res want (!(node.kind matches .walrus ..))
 if let some want := want then
  if !want.ty.isAnyLike && !want.ty.isNever && !res.draft && res.wantDiag.isNone then
   let (fits, notes) <- Match.explained (assign want.ty res.ty)
   if !fits then return {res with tyErrs := true, wantDiag := (notes.setSpan node.span)}
 pure res

variable (opts : ExpectOpts)
def tyWant := do
 let fwdRefs := opts.fwdRefs || (<- postponesAnnots node)
 tyOf node
  {instaTy := true, strLitAsTy := true, allowUnscopedVar := opts.allowUnscoped, bindsTyVars := opts.bindsTyVars
   clsTyVarsOnly := opts.clsTyVarsOnly, fwdRefs, parsesStrLit := !fwdRefs && opts.parsesStrLit
   noFinal := !opts.allowFinal, allowReq := opts.allowReq, allowReadOnly := opts.allowReadOnly
   tyExpr := opts.tyExpr || opts.allowReq || opts.allowReadOnly
   allowUnpTup := opts.allowUnpTup, noTyVarTup := !opts.allowUnpTup
   allowUnpTdict := opts.allowUnpTdict, noParSpec := !opts.allowParSpec
   dotsToAny := opts.dotsToAny, allowDots := opts.allowDots
   onlyTyForms := opts.onlyTyForms, noClsVar := !opts.allowClsVar
   varTyAnnot := opts.varTyAnnot, notParsed := opts.notParsed, tyFormArg := opts.tyFormArg}

def tyOfAnnot : Eval Ty := do
 let file <- fileOf node
 if file.isTypingStub || file.isTypingExtensionsStub then if let some ty <- annotatedSpec? node then return ty
 let isCmt := match <- parentKind? node with
  | some (.assignment _ _ (some cmt) _) => cmt == node
  | some (.fnTyCmt _ pars ret) => ret == node || pars.contains node
  | some (.par parts) => parts.hintCmt == node
  | _ => false
 let ty := (<- tyWant node {opts with
  tyExpr := true, dotsToAny := true, fwdRefs := opts.fwdRefs || isCmt
  notParsed := opts.notParsed || isCmt}).ty
 if ty.isMod then blame "modAsTy" node
 pure ty.toInst

/-! ## Evaluation -/

@[reducible] def above : Evals :=
 {tyOfExpr, tyWant, tyOfAnnot, tyOfCls, tyOfFn, undecorated, tyOfTyAlias, tyOfTyPar, evalStmt, evalExpr,
  evalPar, evalMatch, evalCase, decoFacts, declTyOfSym, effTyOfSym, tyForDecl, inferDecl, inferRet,
  synthesizeCls, inferVariance, specCls, loadMod, resolveMod, flowTy, flowReach, afterReach, checkCall, ctorFn
  printTy := printTyWith, assign := assignTy, boundMem := accessBound, magicCall := plainMagicCall
  iterated := (iterated · · · ·), assignToExpr := (assignToExpr · · · · · none)}

end Infer

@[reducible] def Evals.ofDepth : Nat -> Evals
 -- Nothing more is found out here.
 | 0 => {(default : Evals) with assign := fun _ _ _ _ => pure true, specCls := fun ty _ _ _ => pure ty}
 | depth + 1 => @Infer.above (ofDepth depth)

end TypeChecker
