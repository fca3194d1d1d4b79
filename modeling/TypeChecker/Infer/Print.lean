import TypeChecker.Infer.Context

/-! How types are written. A name that stands for different classes within one type is written with its
module; return types are found out where they are not declared. -/

namespace TypeChecker
namespace Lit

def maxShownText := 50
def hexDigit (val : Nat) := Nat.digitChar val

variable (text : Text)
def quotedUnit (idx : Nat) (unit : UInt16) : Text :=
 let escaped name := .ofString ("\\" ++ name)
 let isPaired :=
  if isHighSurrogate unit then isLowSurrogate (text.unit (idx + 1))
  else 0 < idx && isHighSurrogate (text.unit (idx - 1))
 if unit == 0x27 then escaped "'"
 else if unit == 0x5c then escaped "\\"
 else if unit == 8 then escaped "b"
 else if unit == 9 then escaped "t"
 else if unit == 10 then escaped "n"
 else if unit == 12 then escaped "f"
 else if unit == 13 then escaped "r"
 else if unit < 32 || ((isHighSurrogate unit || isLowSurrogate unit) && !isPaired) then
  let val := unit.toNat
  escaped (String.ofList ('u' :: [12, 8, 4, 0].map fun shift => hexDigit ((val >>> shift) % 16)))
 else #[unit]

def quoted := "'" ++ Text.toString ((text.mapIdx fun idx unit => quotedUnit text idx unit).foldl (· ++ ·) #[]) ++ "'"

def quotedBytes :=
 let body := text.toList.flatMap fun unit =>
  if 20 <= unit && unit <= 126 then
   if unit == 34 then ['\\', '"'] else [Char.ofNat unit.toNat]
  else ['\\', 'x', hexDigit (unit.toNat / 16 % 16), hexDigit (unit.toNat % 16)]
 "b\"" ++ String.ofList body ++ "\""

def print (clsName : String) : Lit Ty -> String
 | .int val _ => toString val
 | .bool val => if val then "True" else "False"
 | .enum mem => mem.clsName ++ "." ++ mem.itemName
 | .sentinel _ name => name
 | .text val =>
  let shown := if maxShownText < val.size then val.slice 0 maxShownText ++ .ofString "…" else val
  if clsName == "bytes" then quotedBytes shown else quoted shown

end Lit

def Ty.printLit (ty : Ty) := ty.lit?.elim "" (·.print ty.clsName)
abbrev NamesInUse := Std.HashMap String Tys

namespace NamesInUse
variable (names : NamesInUse) (name : String) (ty : Ty)
def asInst := {ty with isInsta := false, isInst := true : Ty}.setDepth none

def add (byAlias : Bool) :=
 let isSame known :=
  if byAlias then known.aliasUse?.map (·.shared.fullName) == ty.aliasUse?.map (·.shared.fullName)
  else known.isCls && ty.isCls && (asInst known).sameCls (asInst ty)
 let known := names.getD name []
 if known.any isSame then names else names.insert name (known ++ [ty])

def isUnique : Bool := (names.getD name []).length <= 1

end NamesInUse
namespace Infer
variable [Evals] (ty : Ty)
def effRet := (·.ty) <$> Evals.inferRet ty none

variable (flags : PrintFlags)
def aliasName (use : AliasUse Ty) := if flags.fullNames then use.shared.fullName else use.shared.name
def expandsAlias (within : Tys) (ty : Ty) := flags.expandAlias && !within.any (·.isIdentical ty)

def collectNames : Nat -> Tys -> NamesInUse -> Ty -> Eval NamesInUse
 | 0, _, names, _ => pure names
 | fuel + 1, within, names, ty => do
  let collect names part := collectNames fuel (ty :: within) names part
  if let some use := ty.aliasUse? then
   if !expandsAlias flags within ty then
    return <- (use.tyArgs.getD []).foldlM collect (names.add (aliasName flags use) ty true)
  match ty.form with
  | .fn data => collect (<- ((Ty.typedPars data).map (·.2)).foldlM collect names) (<- effRet ty)
  | .ovld ovls _ => ovls.foldlM collect names
  | .cls data =>
   if data.lit.isSome then return names
   let name := data.aliasName.getD (if flags.fullNames then data.ref.fullName else data.ref.name)
   let names := names.add name ty false
   if data.ref.isPseudo then return names
   ((data.tupArgs.map (·.map (·.ty))).getD (data.tyArgs.getD [])).foldlM collect names
  | .union mems srcs _ => (mems ++ srcs).foldlM collect names
  | _ => pure names

structure PrintEnv where
 flags : PrintFlags
 names : NamesInUse
 within : Tys := []

abbrev PrintPart := PrintEnv -> Ty -> Eval String
def nestInsta (text : String) := (List.range (ty.depth + 1)).foldl (fun text _ => "type[" ++ text ++ "]") text
def commaList (parts : Strings) := ", ".intercalate parts
def condMark (ty : Ty) := if !ty.conds.isEmpty && !flags.omitConds then "*" else ""
def uniqueName (env : PrintEnv) (name fullName : String) := if env.names.isUnique name then name else fullName

variable (print : PrintPart) (env : PrintEnv) (ty : Ty)
def printAliasName (use : AliasUse Ty) : Eval String := do
 let name := uniqueName env (aliasName env.flags use) use.shared.fullName
 let env := {env with within := ty :: env.within}
 match ((<- univ).aliasAt use.shared.id).tyPars with
 | none | some [] => pure name
 | some pars =>
  let shows tys := !env.flags.omitArgsIfUnk || tys.any (!·.isUnk)
  let u <- univ
  let texts <- if let some args := use.tyArgs then
    if shows args then
     let parts := args.mapIdx fun idx arg =>
      if (pars.getD idx (pars.getLastD .unk)).isTupVar && arg.isObj && u.isTupCls arg &&
        arg.tupArgs?.any (·.all (!·.isUnb)) then arg.tupArgs.map (·.ty)
      else [arg]
     some <$> parts.flatten.mapM (print env)
    else pure none
   else if shows pars then some <$> pars.mapM (print env) else pure none
  match texts with
  | none => pure name
  | some [] => return name ++ "[()]"
  | some texts => return name ++ "[" ++ commaList texts ++ "]"

def unpackMark (text : String) := "*" ++ text

variable (pars : Tys)
def printTyArgs (args : List TyTupArg) : Eval Strings := do
 let unbText text := unpackMark ("tuple[" ++ text ++ ", ...]")
 let texts <- args.zipIdx.mapM fun (arg, idx) => do
  match if pars[idx]?.any Ty.isTupVar && arg.ty.isTupObj then arg.ty.tupArgs? else none with
  | some [] => return if idx == 0 then [unpackMark "tuple[()]"] else []
  | some ents => ents.mapM fun ent => do
   let text <- print env ent.ty
   return if ent.isUnb then unbText text else text
  | none =>
   let text <- print env arg.ty
   if arg.isUnb then return if args.length == 1 then [text, "..."] else [unbText text]
   else pure [text]
 pure texts.flatten

def isUnkArg (arg : TyTupArg) (idx : Nat) :=
 if pars[idx]?.any Ty.isTupVar && arg.ty.isTupObj && arg.ty.tupArgs?.isSome then
  !arg.ty.tupArgs.isEmpty && arg.ty.tupArgs.all (·.ty.isUnk)
 else arg.ty.isUnk

def printObj : Eval String := do
 let data := ty.cls
 let u <- univ
 let name := data.aliasName.getD (if env.flags.fullNames then data.ref.fullName else data.ref.name)
 let name := if ty.isNamed "NoneType" then "None" else name
 let name := uniqueName env name data.ref.fullName
 let name <-
  if data.ref.isPseudo then pure name
  else do
   let pars := u.tyPars ty
   let marked := if data.isUnp then unpackMark name else name
   let args : Option (List TyTupArg) := data.tupArgs <|> data.tyArgs.map (·.map fun ty => {ty})
   match args with
   | some [] => pure (if u.isTupCls ty || (pars.getLast?.any Ty.isTupVar) then marked ++ "[()]" else marked)
   | some args =>
    let texts <- printTyArgs print env pars args
    let allUnk := args.zipIdx.all fun (arg, idx) => isUnkArg pars arg idx
    pure (if env.flags.omitArgsIfUnk && allUnk then marked else marked ++ "[" ++ commaList texts ++ "]")
   | none =>
    if pars.isEmpty then pure marked
    else
     pure (marked ++ "[" ++ commaList (<- pars.mapM (print env)) ++ "]")
 return if data.isTdictPartial && !env.flags.asCode then "Partial[" ++ name ++ "]" else name

def isLongLit : Bool := if let some (.text val) := ty.lit? then Lit.maxShownText < val.size else false

def printCls : Eval String := do
 match ty.lit? with
 | some (.sentinel _ name) => pure name
 | some _ =>
  let text := if !env.flags.asCode || !isLongLit ty then "Literal[" ++ ty.printLit ++ "]"
   else if ty.isNamed "bytes" then "bytes" else "LiteralString"
  return if ty.isInst then text else nestInsta ty text ++ condMark env.flags ty
 | none =>
  if ty.isInst then return (<- printObj print env ty) ++ condMark env.flags ty
  if let some form := ty.special? then print env form
  else return nestInsta ty (<- printObj print env ty) ++ condMark env.flags ty

def aliasesCovering : List (Ty × List Nat) :=
 if let .union mems srcs _ := ty.form then
  (srcs.foldl (fun (hit, handled) src =>
   let places := src.subtys.map fun mem =>
    let inst' := mem.toInst
    mems.findIdx? (inst'.isSame ·)
   if places.all (·.isSome) then
    let places := places.filterMap id
    if places.any (!handled.contains ·) then (hit ++ [(src, places)], handled ++ places)
    else (hit, handled)
   else (hit, handled)) (([], []) : List (Ty × List Nat) × List Nat)).1
 else []

def addText (texts : Strings) (text : String) := if texts.contains text then texts else texts ++ [text]

def printUnion (parenthesize : Bool) (ty : Ty) : Eval String := do
 let mems := ty.subtys
 let covering := if env.flags.expandAlias then [] else aliasesCovering ty
 let handled := covering.flatMap (·.2)
 let wrap text := if parenthesize then "(" ++ text ++ ")" else text
 let aliasTexts <- covering.mapM fun (src, _) => print env src
 if let some noneIdx := mems.findIdx? Ty.isNoneInst then
  if !handled.contains noneIdx then
   let rest := ty.removeNone
   if rest.isNever then return "None"
   return wrap ((<- print env rest) ++ " | None")
 let mut texts := aliasTexts.foldl addText []
 let mut lits := []
 let mut clsLits := []
 for (mem, idx) in mems.zipIdx do
  if !handled.contains idx then
   if mem.hasLit && !mem.isSentinel &&
     !(mem.lit? matches some (.sentinel ..)) && !(env.flags.asCode && isLongLit mem) then
    if mem.isObj then lits := addText lits mem.printLit else clsLits := addText clsLits mem.printLit
   else texts := addText texts (<- print env mem)
 if !lits.isEmpty then texts := texts ++ ["Literal[" ++ commaList lits ++ "]"]
 if !clsLits.isEmpty then texts := texts ++ ["type[Literal[" ++ commaList clsLits ++ "]]"]
 let [only] := texts | return wrap (" | ".intercalate texts)
 pure only

def printPar (idx : Nat) (par : TyPar) (sawName : Bool) : Eval (String? × Bool) := do
 let flags := env.flags
 let parTy := ty.parTy idx
 let isShown := par.name.isSome && !par.isNameSynth
 let stars := match par.cat with
  | .argsList => if par.name.isNone || !par.isNameSynth then "*" else ""
  | .kwargsDict => "**"
  | .simple => ""
 let sawName := sawName || isShown
 let text := if isShown then stars ++ par.nameText else stars
 let hasName := !par.nameText.isEmpty
 if !hasName && par.cat == .simple && !sawName then return (none, sawName)
 let isTyped := par.isTyDecl || par.isTyInferred
 let (text, assignment) <-
  if hasName then
   if isTyped then do
    let tyText <- if env.within.length < maxTyDepth then print env parTy else pure ""
    let text :=
     if isShown then text ++ ": "
     else if par.cat == .argsList && !parTy.isUnp then text ++ "*"
     else text
    pure (text ++ (if par.cat == .kwargsDict && parTy.isUnp then "*" ++ tyText else tyText), " = ")
   else if !flags.omitArgsIfUnk then
    let text := if par.isNameSynth then text else text ++ ": "
    pure (text ++ (if flags.unkAsAny then "Any" else "Unknown"), " = ")
   else pure (text, "=")
  else pure (if par.cat == .simple then text ++ "/" else text, "=")
 let isParSpecPart := hasName && isTyped && parTy.isSigVar && par.cat != .simple
 let text := match ty.fn.parDflt? idx, par.dfltExpr with
  | some _, some expr => text ++ assignment ++ expr.print
  | some _, none => text ++ assignment ++ "..."
  | none, _ => text
 if ty.fn.flags.gradual && !isParSpecPart then
  match par.cat with
  | .argsList => return (some "...", sawName)
  | .kwargsDict => return (none, sawName)
  | .simple => return (text, sawName)
 pure (text, sawName)

def printFnParts : Eval (Strings × String) := do
 let parSpec := Ty.trailSig? ty.fn
 let bare := if parSpec.isSome then ty.dropTrailSig else ty
 let mut texts := []
 let mut sawName := false
 for (par, idx) in bare.fn.pars.zipIdx do
  let (text, saw) <- printPar print env bare idx par sawName
  sawName := saw
  texts := texts ++ text.toList
 if let some parSpec := parSpec then texts := texts ++ ["**" ++ (<- print env parSpec)]
 let retTy <- effRet bare
 let retText <-
  if env.within.length < maxTyDepth then
   print {env with flags := {env.flags with wrapUnion := true, wrapCallable := true}} retTy
  else pure ""
 pure (texts, retText)

def printCallable : Eval String := do
 let parSpec := Ty.trailSig? ty.fn
 let bare := if parSpec.isSome then ty.dropTrailSig else ty
 let pars := bare.fn.pars
 let ret <- print env (<- effRet bare)
 if !pars.isEmpty && !(pars.all (·.cat == .simple) && pars.getLast?.all (·.nameText.isEmpty)) then
  return "Callable[..., " ++ ret ++ "]"
 let tys <- (pars.zipIdx.filter (!·.1.nameText.isEmpty)).mapM fun (_, idx) => print env (bare.parTy idx)
 return match parSpec.map (·.shared.name), tys with
  | some name, [] => "Callable[" ++ name ++ ", " ++ ret ++ "]"
  | some name, tys => "Callable[Concatenate[" ++ commaList (tys ++ [name]) ++ "], " ++ ret ++ "]"
  | none, tys => "Callable[[" ++ commaList tys ++ "], " ++ ret ++ "]"

def printFn := do
 if env.flags.asCode then return <- printCallable print env ty
 let (pars, retText) <- printFnParts print env ty
 let sig := "(" ++ commaList pars ++ ")"
 if ty.fn.flags.sigVal then return if pars == ["..."] then "..." else sig
 let full := sig ++ " -> " ++ retText
 return if env.flags.wrapCallable then "(" ++ full ++ ")" else full

def printVar : Eval String := do
 let data := ty.var
 if data.shared.isSynth then
  if let some shared := data.shared.recAlias then
   if let some bound := ((<- univ).aliasAt shared.id).bound then
    if env.flags.expandAlias then return <- print env (if ty.isInst then bound.toInst else bound)
   return shared.name
  match data.shared.isSelf, data.shared.bound with
  | true, some bound =>
   let text <- print {env with flags.expandAlias := false} bound
   let text := if bound.isAnyLike then text else if env.flags.asCode then "Self" else "Self@" ++ text
   return if ty.isInsta then nestInsta ty text else text
  | _, _ => return if env.flags.unkAsAny then "Any" else "Unknown"
 let name := data.readableName !env.flags.asCode
 if ty.isSigVar then return if let some access := data.access then name ++ "." ++ access.name else name
 let name := if data.isUnp then unpackMark name else name
 let name := if ty.isTupVar && data.isInUnion then "Union[" ++ name ++ "]" else name
 return if ty.isInsta then nestInsta ty name else name

def printForm (wrapUnion wrapCallable : Bool) (ty : Ty) : Eval String := do
 match ty.form with
 | .unbound => return if env.flags.asCode then "Any" else "Unbound"
 | .unk .. => return if env.flags.unkAsAny then "Any" else "Unknown"
 | .mod data => return if env.flags.asCode then "Any" else "Module(\"" ++ data.name ++ "\")"
 | .cls _ => printCls print env ty
 | .fn _ =>
  if ty.isInsta then return "type[" ++ (<- printFn print env ty.fnInst) ++ "]"
  else printFn print {env with flags := {env.flags with wrapUnion, wrapCallable}} ty
 | .ovld ovls _ =>
  if env.flags.asCode then return "Callable[..., Any]"
  match <- ovls.mapM (print env) with
  | [only] => pure only
  | texts => return "Overload[" ++ commaList texts ++ "]"
 | .union .. =>
  if let some form := ty.special? then if ty.isInsta && ty.aliasUse?.isNone then return <- print env form
  printUnion print {env with flags.wrapCallable := true} wrapUnion ty
 | .tyVar _ => printVar print env ty
 | .never isNoReturn => return if isNoReturn then "NoReturn" else "Never"
 | .any isEllipsis => return if isEllipsis then "..." else "Any"

def printIn : Nat -> PrintEnv -> Ty -> Eval String
 | 0, env, _ => return if env.flags.asCode then "Any" else "<Recursive>"
 | fuel + 1, env, ty => do
  let print := printIn fuel
  let flags := env.flags
  let env := {env with flags := {flags with wrapUnion := false, wrapCallable := false}}
  if let some use := ty.aliasUse? then
   if !expandsAlias flags env.within ty then
    let name <- printAliasName print env ty use
    if !ty.isTyVar then return name
  let aliasFullName := ty.aliasUse?.map (·.shared.fullName)
  let isNested := env.within.any fun outer => (!ty.isCls && outer.isIdentical ty) ||
   (outer.aliasUse?.isSome && outer.aliasUse?.map (·.shared.fullName) == aliasFullName)
  let inner := {env with within := ty :: env.within}
  if isNested || maxTyDepth < env.within.length then
   if let some shared := ty.shared.recAlias then if ty.shared.isSynth then return shared.name
   let some use := ty.aliasUse? | return "..."
   if ((<- univ).aliasAt use.shared.id).tyPars.isNone then
    return uniqueName env (aliasName flags use) use.shared.fullName
   return <- print {inner with flags.expandAlias := false} ty
  printForm print inner flags.wrapUnion flags.wrapCallable ty

def printTyWith := do
 let names <- collectNames flags (maxTyDepth + 1) [] {} ty
 printIn (maxTyDepth + 1) {flags, names} ty

def printPair (src dest : Ty) (flags : PrintFlags := {}) : Eval (String × String) := do
 let srcText <- printTy src flags
 let destText <- printTy dest flags
 if srcText != destText then return (srcText, destText)
 let full := {flags with fullNames := true}
 let fullSrc <- printTy src full
 let fullDest <- printTy dest full
 return if fullSrc != fullDest then (fullSrc, fullDest) else (srcText, destText)

def printObjTy := do
 let names <- collectNames {} (maxTyDepth + 1) [] {} ty
 printObj (printIn maxTyDepth) {flags := {}, names} ty

end Infer
end TypeChecker
