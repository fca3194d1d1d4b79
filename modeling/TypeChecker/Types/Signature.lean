import TypeChecker.Types.Query

/-! The parameters of a function as a caller sees them: unpacked tuples and typed dictionaries are spelled
out, and each parameter is taken by position, by name or both ways. -/

namespace TypeChecker
namespace Linearization
section Merge
variable {α : Type} (same : α -> α -> Bool) (elem : α) (isCls : α -> Bool) (lists : List (List α))
def isInTail := lists.any fun list => (list.drop 1).any (same elem) && !(list.head?.any (same elem))

def nextHead? : Option (Nat × α) :=
 lists.zipIdx.findSome? fun (list, idx) =>
  match list with
  | [] => none
  | head :: _ => if !isCls head || !isInTail same head lists then (idx, head) else none

def take (idx : Nat) (head : α) :=
 if isCls head then lists.map fun list => list.filter fun elem => !(isCls elem && same elem head)
 else lists.modify idx (·.drop 1)

def mergeIn (isCls : α -> Bool) : Nat -> List (List α) -> List α × Bool
 | 0, _ => ([], true)
 | fuel + 1, lists =>
  if let some (first :: _, firstIdx) := lists.zipIdx.find? (!·.1.isEmpty) then
   if let some (idx, head) := nextHead? same isCls lists then
    let (rest, isValid) := mergeIn isCls fuel (take same isCls lists idx head)
    (head :: rest, isValid)
   else
    let (rest, _) := mergeIn isCls fuel (take same isCls lists firstIdx first)
    (first :: rest, false)
  else ([], true)

def merge := mergeIn same isCls (lists.flatten.length + 1) lists

end Merge

def effBases (flags : ClsFlags) (bases : Tys) : Tys :=
 bases.zipIdx.filterMap fun (base, idx) =>
  if base.isClsOf "Generic" &&
    (flags.proto || flags.tdict || (bases.drop (idx + 1)).any fun other =>
     other.isClsObj && other.tyArgs?.isSome && other.cls.hasOwnArgs) then
   none
  else base

def asAncestor (ty : Ty) := if ty.isCls || ty.isAnyLike then ty else .unk

def compute (u : Univ) (ty : Ty) : Tys × Bool :=
 let info := u.info ty
 let bases := effBases info.flags info.bases
 let sol := u.solOf ty
 let orders := bases.map fun base =>
  if base.isClsObj then (u.mro base).map (u.applySol · (u.solOf base)) else [base]
 let (ancestors, isValid) := merge Ty.sameCls Ty.isClsObj (orders ++ [bases.map (u.applySol · sol)])
 (asAncestor (u.applySol ty sol) :: ancestors.map asAncestor, isValid)

end Linearization

structure VarBounds where
 tyVar : Ty
 (lower upper : Ty? := none)
 retainLits := false

structure ConstrSet where
 ents : ByName VarBounds := []
 scopeIds : List TyScopeId := []

namespace ConstrSet
variable (set : ConstrSet)
def get? (tyVar : Ty) := set.ents.lookup tyVar.var.key

def setBounds (bounds : VarBounds) :=
 let key := bounds.tyVar.var.key
 if set.ents.any (·.1 == key) then
  {set with ents := set.ents.map fun ent => if ent.1 == key then (key, bounds) else ent}
 else {set with ents := set.ents ++ [(key, bounds)]}

def isEmpty := set.ents.isEmpty

variable (id : TyScopeId)
def hasScope := set.scopeIds.contains id

def addScope := if set.hasScope id then set else {set with scopeIds := set.scopeIds ++ [id]}

def isSame (lhs rhs : ConstrSet) :=
 let same := sameOption fun lhs rhs => lhs.isSame rhs {honorExplicitArgs := true, honorTyForm := true}
 lhs.ents.length == rhs.ents.length && lhs.ents.all fun (key, bounds) =>
  if let some other := rhs.ents.lookup key then same bounds.lower other.lower && same bounds.upper other.upper
  else false

def score (u : Univ) (set : ConstrSet) :=
 set.ents.foldl (fun (score : Float) (_, bounds) =>
  if let some ty := bounds.lower <|> bounds.upper then score + 1 + (1 - u.cost ty) else score + 1) 0

end ConstrSet

structure Constrs where
 sets : List ConstrSet := [{}]
 deriving Inhabited

abbrev Constrs? := Option Constrs

namespace Constrs

def maxSetCount := 1024

variable (constrs : Constrs)
def main := constrs.sets.headD {}
def isEmpty := constrs.sets.all (·.isEmpty)
def setBounds (bounds : VarBounds) : Constrs := {sets := constrs.sets.map (·.setBounds bounds)}

def setTy (tyVar : Ty) (lower : Ty?) (upper : Ty? := none) (retainLits : Bool := false) : Constrs :=
 constrs.setBounds {tyVar, lower, upper, retainLits}

def forSig (scopeIds : List TyScopeId) :=
 if scopeIds.isEmpty then constrs
 else match constrs.sets.filter fun set => scopeIds.all set.hasScope with
  | [] => {sets := constrs.sets.map (scopeIds.foldl .addScope ·)}
  | hit => {sets := hit}

def withSets (sets : List ConstrSet) := if sets.length < maxSetCount then {sets} else constrs
def isSame (lhs rhs : Constrs) := sameList ConstrSet.isSame lhs.sets rhs.sets

def score (u : Univ) (constrs : Constrs) :=
 constrs.sets.foldl (fun score set => score + set.score u) 0 / constrs.sets.length.toFloat

end Constrs

inductive ParKind where
 | byPos | standard | kw
 /-- An entry of an unpacked tuple. -/
 | expanded
 deriving DecidableEq

def ParKind.isByPos (kind : ParKind) := kind matches .byPos | .expanded

structure VirtualPar where
 par : TyPar
 (ty declTy : Ty)
 dfltTy : Ty? := none
 /-- The place among the parameters of the function. -/
 idx : Nat?
 kind : ParKind

namespace VirtualPar
variable (par : VirtualPar)
def name? := par.par.name
def name := par.par.name.getD ""
def cat := par.par.cat

/-- The number of the parameter, counted from one. -/
def place := par.idx.elim 0 (· + 1)

end VirtualPar

instance : Inhabited VirtualPar :=
 ⟨{par := {cat := .simple, ty := .unk}, ty := .unk, declTy := .unk, idx := none, kind := .standard}⟩

structure ParList where
 pars : Array VirtualPar := #[]
 (posOnlyCount posCount : Nat := 0)
 (kwargsIdx argsIdx firstKwOnly : Nat? := none)
 firstPosOrKw := 0
 hasUnpTupVar := false
 (unpTdict parSpec : Ty? := none)

namespace ParList
variable (list : ParList)
/-- How many parameters can be given by position. -/
def posList := list.firstKwOnly.getD list.pars.size
def get (idx : Nat) := list.pars.getD idx default
def args? := list.argsIdx.map list.get
def kwargs? := list.kwargsIdx.map list.get

end ParList

def Name.isPosOnly (name : String) := name.startsWith "__" && !isDunder name

def Par.isNamed {α : Type} (par : Par α) (test : String -> Bool) := par.cat == .simple && par.name.any test

/-- How many parameters are positional by their names. The first may have any name unless the function is static. -/
def namedPosOnly {α : Type} (isStatic : Bool) (idx : Nat) : List (Par α) -> Nat?
 | [] => none
 | par :: rest =>
  if par.isNamed Name.isPosOnly then (namedPosOnly isStatic (idx + 1) rest).getD (idx + 1)
  else if 0 < idx || isStatic || !par.isNamed (· != "") then none
  else namedPosOnly isStatic (idx + 1) rest

def FnForm.posOnlyIdx? {α : Type} (data : FnForm α) : Nat? :=
 if let some idx := data.pars.findIdx? Par.isPosSep then idx
 else namedPosOnly data.flags.staticMeth 0 data.pars

namespace ParList

structure Building where
 list : ParList := {}
 sawKwOnly := false

variable (u : Univ) (building : Building) (data : FnData) (posOnly : Nat?)
def kindOf (building : Building) (par : TyPar) (idx : Nat) : ParKind :=
 if par.cat == .argsList then .byPos
 else if building.sawKwOnly then .kw
 else if posOnly.any (idx < ·) then .byPos
 else .standard

variable (par : TyPar) (idx : Nat)
def add (kind : ParKind) (ty dfltTy := none) :=
 if par.name.all (·.isEmpty) then building
 else
  let ent :=
   {par, idx, kind, ty := ty.getD ((data.parTy? idx).getD .unk)
    declTy := (data.pars[idx]?).elim .unk (·.ty), dfltTy := dfltTy <|> data.parDflt? idx}
  {building with list.pars := building.list.pars.push ent}

/-- From here on parameters are given by name only. -/
def closePositions (idx extra : Nat) :=
 if !building.sawKwOnly && posOnly.all (· <= idx) then
  {list := {building.list with firstKwOnly := (building.list.pars.size + extra)}, sawKwOnly := true}
 else building

def addTupEnt (addsToPosOnly : Bool)
  (building : Building) (ent : TyTupArg × Nat) : Building :=
 let (arg, place) := ent
 let cat := if arg.ty.isTupVar || arg.isUnb then .argsList else .simple
 let list := building.list
 let list := if cat == .argsList then {list with argsIdx := list.pars.size} else list
 let made :=
  {cat, ty := arg.ty, flags := {nameSynth := true, tyDecl := true}
   name := (par.nameText ++ "[" ++ place.repr ++ "]")}
 let building := add {building with list} data made idx .expanded arg.ty
 let list := building.list
 {building with list := {list with
  posCount := list.posCount + (if cat == .simple then 1 else 0)
  posOnlyCount := list.posOnlyCount + (if 0 < place && addsToPosOnly then 1 else 0)}}

def addArgs (building : Building) (par : TyPar) (idx : Nat) :=
 let ty := (data.parTy? idx).getD .unk
 let isNamed := par.name.any (!·.isEmpty)
 match isNamed && ty.isUnpCls, ty.tupArgs? with
 | true, some args =>
  let building := args.zipIdx.foldl (addTupEnt data par idx (idx < building.list.posOnlyCount)) building
  closePositions building posOnly idx 0
 | _, _ =>
  let list := building.list
  let list :=
   if isNamed && list.argsIdx.isNone then
    {list with argsIdx := list.pars.size, hasUnpTupVar := list.hasUnpTupVar || ty.isTupVar}
   else list
  let building := closePositions {building with list} posOnly idx (if isNamed then 1 else 0)
  add building data par idx .byPos

variable (noExtra : Bool)
def addKwargs (building : Building) (par : TyPar) (idx : Nat) : Building :=
 let building := {building with sawKwOnly := true}
 let ty := (data.parTy? idx).getD .unk
 let open_ building :=
  {building with list := {building.list with
   firstKwOnly := building.list.firstKwOnly <|> some building.list.pars.size}}
 match ty.isObj && ty.isUnpCls, (u.info ty).typedEnts with
 | true, some ents =>
  let building := ents.known.foldl (fun building (name, ent) =>
   let ent := ((ty.cls.narrowedEnts.getD []).lookup name).getD ent
   let valTy := u.partlySpec ent.valTy ty
   let dfltTy := if ent.isReq then none else valTy
   add building data
    {cat := .simple, ty := valTy, flags := {tyDecl := true}, name, dfltTy}
    idx .kw valTy dfltTy) (open_ building)
  let extra := ents.extra.map (·.valTy)
  let building :=
   if (extra.map (!·.isNever)).getD (!noExtra) then
    let made := {cat := .kwargsDict, ty := extra.getD .any, flags := {tyDecl := true}, name := "kwargs"}
    let building := add building data made idx .kw extra
    {building with list.kwargsIdx := some (building.list.pars.size - 1)}
   else building
  {building with list.unpTdict := ty}
 | _, _ =>
  if par.name.any (!·.isEmpty) then
   let building := {building with list := {building.list with
    kwargsIdx := building.list.kwargsIdx <|> some building.list.pars.size}}
   add (open_ building) data par idx .kw
  else building

def addNext (building : Building) (ent : TyPar × Nat) : Building :=
 let (par, idx) := ent
 match par.cat with
 | .argsList => addArgs data posOnly building par idx
 | .kwargsDict => addKwargs u data noExtra building par idx
 | .simple =>
  let building :=
   if par.name.any (!·.isEmpty) && !building.sawKwOnly then
    {building with list.posCount := building.list.posCount + 1}
   else building
  add building data par idx (kindOf posOnly building par idx)

end ParList

/-- The parameters of a function as a caller sees them. -/
def Univ.parList (u : Univ) (ty : Ty) (noExtra : Bool := false) : ParList :=
 let data := ty.fn
 let posOnly := data.posOnlyIdx?
 let leading := (List.range (posOnly.getD 0)).takeWhile fun idx => (data.parDflt? idx).isNone
 let built := data.pars.zipIdx.foldl (ParList.addNext u data posOnly noExtra) {list := {posOnlyCount := leading.length}}
 let list := built.list
 {list with
 parSpec := Ty.trailSig? data
 firstPosOrKw := (list.pars.findIdx? (!·.kind.isByPos)).getD list.pars.size}

namespace Ty
variable (access : ParSpecAccess) (parSpec ty : Ty)
def isParSpecPart := ty.isSigVar && ty.var.access == access && ty.isSame parSpec {ignoreMarks := true}

/-- Whether a value can be given for the positional part of a parameter specification. -/
def fitsParSpecArgs :=
 ty.subtys.all fun mem =>
  isParSpecPart .args parSpec mem || mem.isAnyLike || (mem.isObj && if let some [arg] := mem.tupArgs? then
     arg.isUnb && arg.ty.isAnyLike
    else false)

/-- Whether a value can be given for the keyword part of a parameter specification. -/
def fitsParSpecKwargs :=
 ty.subtys.all fun mem =>
  isParSpecPart .kwargs parSpec mem || mem.isAnyLike ||
   (mem.isObjOf "dict" && if let some [key, val] := mem.tyArgs? then
     key.isObjOf "str" && val.isAnyLike
    else false)

end Ty
end TypeChecker
