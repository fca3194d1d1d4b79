import TypeChecker.Infer.Attribute

/-! Lining up the arguments of a call with the parameters of a function: which argument goes to which
parameter, before any types are compared. -/

namespace TypeChecker.Infer
variable [Evals]
def tyOfArg (arg : Arg) (want : Want? := none) : Eval Typed :=
 match arg.res, arg.val with
 | some res, _ => pure {ty := res.ty.special?.getD res.ty, draft := res.draft}
 | none, some val => tyOf val {} want
 | none, none => pure .unk

variable (args : List Arg)
def touchArgs :=
 args.forM fun arg => do if let some val := arg.val then if !(<- isSpecul val) then discard <| tyOf val

def expandArgs : Eval (List Arg) := do
 let parts <- args.mapM fun arg => do
  if arg.cat != .unpList then return [arg]
  let ty <- firm (<- tyOfArg arg).ty
  let ty := (<- univ).combineSameSizedTuples ty (<- tupCls?)
  if !ty.isTupObj then return [arg]
  if let [only] := ty.tupArgs then if only.isUnb then return [arg]
  ty.tupArgs.mapM fun ent => do
   if ent.isUnb then return {arg with val := none, res := some (.ofTy (<- tupObj [ent]))}
   pure {arg with cat := .simple, val := none, res := some (.ofTy ent.ty)}
 pure parts.flatten

structure ParSlot where
 par : VirtualPar
 kw : String? := none
 needed : Nat
 got := 0

structure Lining where
 ovl : Ty
 idx := 0
 (failed draft : Bool := false)
 matched : Array ArgMatch := #[]
 specTgt : Ty? := none
 specArgs : Option (Array Arg) := none
 (unpOfUnkLength unpMapsToMany : Bool := false)
 score := 0
 deriving Inhabited

structure LiningEnv where
 site : Node
 args : Array Arg
 list : ParList
 parSpec : Ty?
 (posOnlyLimit posLimit byPosArgs : Nat)

structure LiningState where
 res : Lining
 slots : Array ParSlot
 (argIdx parIdx : Nat := 0)
 isManyDone := false
 unpDict : Ty? := none
 unpKeys : Option Strings := none

abbrev LineUp := ReaderT LiningEnv (StateT LiningState Eval)

def sayMissing (names : Strings) :=
 say (if names.length == 1 then "argGoneForPar" else "argGoneForPars") [quotedList names]

namespace LineUp

def change (f : Lining -> Lining) : LineUp Unit := modify fun s => {s with res := f s.res}

def fail (msg : String) (node : Node) : LineUp Unit := do
 if !(<- canSkipDiag (<- read).site) && !(<- get).res.draft then report .callIssue msg node
 change ({· with failed := true})

def add (ent : ArgMatch) := change fun lining => {lining with matched := lining.matched.push ent}
def noteDraft (res : Typed) : LineUp Unit := do if res.draft then change ({· with draft := true})

def receive (idx : Nat) : LineUp Unit :=
 modify fun s => {s with slots := s.slots.modify idx fun slot => {slot with got := slot.got + 1}}

variable (arg : Arg)
def addSpecArg := change fun lining => {lining with specArgs := lining.specArgs.map (·.push arg)}
def nextArg : LineUp Unit := modify fun s => {s with argIdx := s.argIdx + 1}
def nextPar : LineUp Unit := modify fun s => {s with parIdx := s.parIdx + 1}
def place : LineUp Node := return arg.val.getD (<- read).site

def ent (parTy : Ty) (site : Node) (name : String?) : LineUp ArgMatch :=
 return {parTy, requiresMatching := (<- univ).needsSpec parTy, arg, site, parName := name}

def byPosMsg (limit : Nat) := if limit == 1 then say "argPosWantOne" else say "argPosWantNum" [limit.repr]

def moreMsg (count : Nat) := if count == 1 then say "argMorePosWantOne" else say "argMorePosWantNum" [count.repr]

variable (name : String) (ty : Ty) (par : VirtualPar) (restArgs restPars : Nat)
def isOnlyTupVar := ty.isTupObj && if let [ent] := ty.tupArgs then ent.ty.isUnpTupVar else false

def unpByPos : LineUp Unit := do
 let env <- read
 let isVariadic := par.cat == .argsList && par.ty.isUnp
 let argRes <- tyOfArg arg
 let ty := argRes.ty
 if ty.isSigVar && ty.var.access == some .args && par.cat != .argsList then
  fail (byPosMsg env.posLimit) (<- place arg)
 let mut elem := none
 let mut fitsMany := false
 let mut advances := false
 let mut enforceIterable := false
 if isVariadic && ty.isUnpTupVar || isOnlyTupVar ty then
  elem := if isOnlyTupVar ty then ((ty.tupArgs.map (·.ty)).head?).getD ty else ty
  fitsMany := true
  advances := true
  modify ({· with isManyDone := true})
 else if isVariadic && ty.isTupObj then
  fitsMany := true
  advances := true
  if restArgs < restPars then modify ({· with isManyDone := true})
  elem := ty.withCls ({· with isUnp := true})
 else if !(ty.isSigVar && ty.var.access == some .args) then
  elem := (<- Evals.iterated {ty, draft := argRes.draft} false env.site false).map (·.ty)
  enforceIterable := elem.isNone
  change fun lining => {lining with
   unpOfUnkLength := true
   unpMapsToMany := lining.unpMapsToMany || par.cat == .argsList}
  if let (true, some ent) := (isVariadic, elem) then
   fitsMany := true
   elem := <- tupObj [{ty := ent, isUnb := true}] true
 let funcArg := if let some ty := elem then {res := some {ty, draft := argRes.draft}} else {arg with enforceIterable}
 noteDraft argRes
 if isVariadic && !fitsMany then fail (say "unpArgWithManyPar") (<- place arg)
 else
  if par.cat != .simple then addSpecArg arg
  add {<- ent funcArg par.ty (<- place arg) par.name? with
   cat := par.cat, isNameSynth := par.par.isNameSynth
   mapsToVarArgs := isVariadic && decide (restArgs > restPars)}
 if par.name?.isSome && par.cat == .simple then receive (<- get).parIdx
 if advances || par.cat == .argsList then nextArg
 if (<- get).isManyDone || par.cat != .argsList then nextPar

def manyByPos : LineUp Unit := do
 if (<- get).res.specArgs.isSome then
  addSpecArg arg
  nextArg
 else if restArgs <= restPars then
  if restArgs < restPars then fail (moreMsg restArgs) (<- place arg)
  nextPar
 else
  let ty := if par.ty.isUnpCls then ((par.ty.tupArgs.map (·.ty)).head?).getD par.ty else par.ty
  add {<- ent arg par.ty (<- place arg) par.name? with
   parTy := ty, cat := if ty.isUnp then .argsList else .simple
   isNameSynth := par.par.isNameSynth, mapsToVarArgs := true}
  nextArg

def posList : Nat -> LineUp Unit
 | 0 => return
 | fuel + 1 => do
  let env <- read
  let {argIdx, parIdx, ..} <- get
  if argIdx >= env.byPosArgs then return
  let some arg := env.args[argIdx]? | return
  let restArgs := env.byPosArgs - argIdx
  let restPars := env.posLimit - parIdx - 1
  if parIdx >= env.posLimit then
   if (<- get).res.specArgs.isSome then
    (env.args.toList.take env.byPosArgs |>.drop argIdx).forM addSpecArg
    modify ({· with argIdx := env.byPosArgs})
   else
    let isTooMany <- if arg.cat == .unpList then do
      let ty := (<- tyOfArg arg).ty
      pure (ty.isTupObj && !ty.isUnbTup && !ty.tupArgs.isEmpty)
     else pure true
    if isTooMany then fail (byPosMsg env.posLimit) (<- place arg)
    else change ({· with unpOfUnkLength := true})
   return
  let some par := env.list.pars[parIdx]? | return
  if arg.cat == .unpList then unpByPos arg par restArgs restPars
  else if par.cat == .argsList then manyByPos arg par restArgs restPars
  else
   add {<- ent arg par.ty (<- place arg) par.name? with cat := par.cat, isNameSynth := par.par.isNameSynth}
   receive parIdx
   nextArg
   nextPar
  posList fuel

def checkPosOnly (hasUnpList hasSpec : Bool) : LineUp Unit := do
 let env <- read
 let pars := env.list.pars
 let limit := env.posOnlyLimit
 let isPlainArgs par := par.cat == .argsList && !par.ty.isSigVar
 let mut skipped := false
 if (<- get).parIdx < limit && (pars[(<- get).parIdx]?).any isPlainArgs then
  nextPar
  skipped := true
 let parIdx := (<- get).parIdx
 if parIdx < limit && (!hasUnpList || hasSpec) then
  let needed := if let some idx := pars.findIdx? (·.dfltTy.isSome) then min idx limit else limit
  let extra := if let some idx := pars.findIdx? isPlainArgs then
    if parIdx <= idx && idx < limit then 1 else 0
   else 0
  let missing := needed - env.byPosArgs - (if skipped then 1 else 0) - extra
  if missing > 0 then
   fail (moreMsg missing) (<- if let some arg := env.args[env.byPosArgs]? then place arg else pure env.site)

def lookUp : LineUp Nat? :=
 return (<- get).slots.findIdx? fun slot =>
  !slot.par.kind.isByPos && (slot.kw.or slot.par.name?) == some name

def addKw : LineUp Unit := modify fun s => {s with slots := s.slots.push {par, kw := name, needed := 1, got := 1}}

def unpTdict (ty : Ty) : LineUp Unit := do
 let env <- read
 let ents <- typedEnts ty
 let place <- place arg
 let mut notes := Adden.empty
 for (name, val) in ents.known do
  let given := {res := some (.ofTy val.valTy)}
  if let some idx <- lookUp name then
   if ((<- get).slots[idx]?).any (·.got > 0) then notes := notes.say "parTwice" [name]
   else
    receive idx
    add (<- ent given ((env.list.pars.find? (·.name? == some name)).elim .unk (·.ty)) place name)
  else if let some kwargs := env.list.kwargs? then
   add {<- ent given kwargs.ty place name with cat := .kwargsDict}
   addKw name kwargs
  else if env.list.unpTdict.isNone then notes := notes.say "parNameGone" [name]
 let extra <- if let some extra := ents.extra then pure extra.valTy else objTy
 if let (false, some kwargs) := (extra.isNever, env.list.kwargs?) then
  add { <- ent {cat := .unpDict, res := some (.ofTy extra)} kwargs.ty place
   kwargs.name? with cat := .kwargsDict}
 if !notes.isEmpty then fail (say "unpTdArg" ++ notes.print) place

def unpMapping : LineUp Unit := do
 let env <- read
 let str <- builtinObj env.site "str"
 let some proto <- clsOf? (·.supportsKeysAndGetItem) | return
 if !proto.isClsObj || !str.isObj then return
 let mut isValid := false
 if ty.isTyVar then isValid := true
 else
  let (fits, constrs) <- Match.constrained {} (assign proto.clsInst ty)
  if fits then
   if let key :: val :: _ := (<- solve proto constrs).tyArgs then
    isValid <- canAssign str key
    let names := key.subtys.map fun part => match part.isObj, part.lit? with
     | true, some (.text text) => text.toString
     | _, _ => none
    modify ({· with unpKeys := names.mapM id, unpDict := val})
   else
    isValid := true
    modify ({· with unpDict := some .unk})
 change ({· with unpOfUnkLength := true})
 if let (some kwargs, some val) := (env.list.kwargs?, (<- get).unpDict) then
  add {<- ent arg kwargs.ty (<- place arg) kwargs.name? with argTy := val}
  change ({· with unpMapsToMany := true})
 if !isValid then fail (say "unpDictArgNotMapping") (<- place arg)

def unpDict : LineUp Unit := do
 let env <- read
 let res <- tyOfArg arg (Want.make env.list.unpTdict)
 let ty := res.ty
 noteDraft res
 if ty.isAnyLike then modify ({· with unpDict := ty})
 else if ty.isObj && (<- flagsOf ty).tdict then unpTdict arg ty
 else if let some spec := env.parSpec.filter (Ty.fitsParSpecKwargs · ty) then
   modify ({· with unpDict := some .any})
   if (<- get).res.specArgs.isNone then
    add {cat := .kwargsDict, parTy := spec, arg, site := <- place arg
         argTy := if ty.isSigVar then none else some .any}
  else unpMapping arg ty
 addSpecArg arg

def named (nameNode : Node) : LineUp Unit := do
 let env <- read
 let name := nameNode.nameVal
 if let some idx <- lookUp name then
  if ((<- get).slots[idx]?).any (·.got > 0) then fail (say "parTwice" [name]) nameNode
  else
   receive idx
   let par := env.list.pars.find? fun par => par.name? == some name && par.kind != .byPos
   add (<- ent arg (par.elim .unk (·.ty)) (<- place arg) name)
 else if (<- get).res.specArgs.isSome then addSpecArg arg
 else if let some kwargs := env.list.kwargs? then
   if kwargs.ty.isSigVar then fail (say "parNameGone" [name]) nameNode
   else
    add {<- ent arg kwargs.ty (<- place arg) name with cat := .kwargsDict}
    addKw name kwargs
  else fail (say "parNameGone" [name]) nameNode

def restArg : LineUp Unit := do
 let env <- read
 if arg.cat == .unpDict then unpDict arg
 else if let some name := arg.name then named arg name
 else if arg.cat == .simple then
  if (<- get).res.specArgs.isSome then addSpecArg arg else fail (byPosMsg env.posLimit) (<- place arg)
 else if let some spec := env.parSpec then
  let res <- tyOfArg arg
  noteDraft res
  if spec.fitsParSpecArgs res.ty then
   add {cat := .argsList, parTy := spec, arg, site := <- place arg
        argTy := if res.ty.isSigVar then none else some .any}

def spreadDict : LineUp Unit := do
 let env <- read
 let src := env.args.find? (·.cat == .unpDict)
 for (par, idx) in env.list.pars.zipIdx do
  if idx < env.list.firstPosOrKw || par.cat != .simple then continue
  let some name := par.name? | continue
  if ((<- get).slots[idx]?).any (·.got != 0) then continue
  if (<- get).unpKeys.all (·.contains name) then
   add {<- ent {res := some (.ofTy ty)} par.ty ((src.bind (·.val)).getD env.site) name with
        isNameSynth := par.par.isNameSynth}
   receive idx

def checkMissing : LineUp Unit := do
 let env <- read
 let missing := (<- get).slots.toList.filterMap fun slot =>
  if slot.got >= slot.needed then none else slot.par.name?.filter (!·.isEmpty)
 if !missing.isEmpty then fail (sayMissing missing) env.site
 for (par, idx) in env.list.pars.zipIdx do
  if par.cat != .simple || par.name?.isNone then continue
  if ((<- get).slots[idx]?).any fun slot => slot.needed == 0 && slot.got == 0 then
   if let some default := par.dfltTy then
    if !default.isEllipsis && (<- univ).needsSpec par.declTy {ignorePseudo := true} then
     add {<- ent {res := some (.ofTy default)} par.ty env.site par.name? with
          cat := par.cat, requiresMatching := true, isDflt := true, isNameSynth := par.par.isNameSynth}

def packMany : LineUp Unit := do
 let env <- read
 let some par := env.list.args? | return
 if !par.par.isTyDecl || (<- get).isManyDone then return
 if !par.ty.isUnp || par.ty.isTyVar && par.ty.var.isInUnion then return
 let (given, rest) := (<- get).res.matched.toList.partition (·.mapsToVarArgs)
 let args <- given.mapM fun ent => do
  pure {ty := (<- tyOfArg ent.arg).ty, isUnb := ent.arg.cat == .unpList}
 let tup <- if let [only] := args then if !only.isUnb && only.ty.isUnp then pure only.ty.pack else tupObj args
  else tupObj args
 let packed :=
  {parTy := par.ty.pack, requiresMatching := true, arg := {res := some (.ofTy tup)}, site := env.site
   parName := par.name?, isNameSynth := par.par.isNameSynth, mapsToVarArgs := true}
 change ({· with matched := (rest ++ [packed]).toArray})

def takeAll (hasSpec : Bool) : LineUp Unit := do
 let env <- read
 let hasUnpList := env.args.any (·.cat == .unpList)
 posList (env.args.size + env.list.pars.size + 1)
 checkPosOnly hasUnpList hasSpec
 if !(<- get).res.failed then
  (env.args.toList.drop (<- get).argIdx).forM restArg
  match (<- get).unpDict with
  | some ty => if !hasUnpList || env.list.argsIdx.isSome then spreadDict ty
  | none => if !(<- get).res.ovl.fn.flags.disableDfltChecks then checkMissing
 if !(<- get).res.failed then packMany
 else if !(<- isSpecul none) then packMany
 if (<- get).res.ovl.fn.isBuiltIn ["isinstance", "issubclass"] && (<- get).res.matched.size == 2 then
  change fun lining => {lining with matched := lining.matched.modify 1 ({· with instPar := true})}

end LineUp

def lineUpArgs (site : Node) (args : List Arg) (callee : Typed) (idx : Nat := 0) : Eval Lining := do
 let ovl := callee.ty
 let list := (<- univ).parList ovl true
 let parSpec := Ty.trailSig? ovl.fn
 let args := (<- expandArgs args).toArray
 let isOwn spec := spec.var.scopeId.any ovl.scopeIds.contains
 let byPos := (args.findIdx? fun arg => arg.cat == .unpDict || arg.name.isSome).getD args.size
 let mut env : LiningEnv := {site, args, list, parSpec, posOnlyLimit := list.posOnlyCount
                             posLimit := list.firstKwOnly.getD list.pars.size, byPosArgs := byPos}
 let mut tgt := none
 let mut hasSpec := false
 match list.argsIdx, list.args?, list.kwargs? with
 | some argsIdx, some many, some kwargs =>
  if many.ty.isSigVar && many.ty.var.access == some .args && kwargs.ty.isSigVar
    && kwargs.ty.var.access == some .kwargs
    && many.ty.shared.name == kwargs.ty.shared.name then
   hasSpec := true
   if isOwn many.ty then tgt := many.ty.setAccess none
   else env := {env with posOnlyLimit := argsIdx, posLimit := argsIdx, byPosArgs := min argsIdx byPos}
 | _, _, _ =>
  if let some spec := parSpec then
   if isOwn spec then
    hasSpec := true
    tgt := spec
 if args.any (·.cat == .unpList) then
  for arg in args do
   if let some name := arg.name then
    if let some at_ := list.pars.findIdx? fun par =>
      par.name? == some name.nameVal && par.cat == .simple then
     if at_ >= env.posOnlyLimit && at_ < env.posLimit then env := {env with posLimit := at_}
 let slots := list.pars.map fun par =>
  {par, needed := if par.dfltTy.isSome || par.cat != .simple then 0 else 1}
 let res := {ovl, idx, draft := callee.draft, specTgt := tgt, specArgs := tgt.map fun _ => #[]}
 let (_, state) <- (LineUp.takeAll hasSpec env).run {res, slots}
 pure state.res

end TypeChecker.Infer
