import TypeChecker.Types.Same

/-! Unions. -/

namespace TypeChecker.Ty

/-! Members. -/

def isAnyOrUnkIn : Nat -> Ty -> Bool
 | 0, _ => false
 | fuel + 1, ty =>
  match ty.form with
  | .any _ | .unk .. => true
  | .union mems _ _ => mems.all (isAnyOrUnkIn fuel)
  | _ => false

variable (ty : Ty)
def isAnyLike := isAnyOrUnkIn 3 ty
def isPossiblyUnbound := ty.subtys.any isUnbound
def isOpt := ty.isUnion && ty.subtys.any isNoneInst
/-- The place of a type in a union: literals stand last, empty containers before them. -/
def rank :=
 if ty.hasLit then 2
 else if ty.isObj && ty.cls.isEmptyContainer then 1
 else 0

/-- A value that tells literals of one class apart. -/
inductive LitKey where
 | text (val : Text) | int (val : Int) (isBig : Bool) | mem (fullName : String)
 deriving DecidableEq

def litKey? : Option LitKey :=
 if !ty.isCls || !ty.conds.isEmpty then none
 else match ty.lit? with
  | some (.text val) => if ty.isNamed "str" then some (.text val) else none
  | some (.int val isBig) => if ty.isNamed "int" then some (.int val isBig) else none
  | some (.enum mem) => some (.mem (mem.clsFullName ++ "." ++ mem.itemName))
  | _ => none

def LitKey.sameKind : LitKey -> LitKey -> Bool
 | .text _, .text _ | .int .., .int .. | .mem _, .mem _ => true
 | _, _ => false

inductive Joining where
 | absorbs
 | becomes (ty : Ty)
 | keeps

variable (orSub : Bool) (args : List TyTupArg) (elideLits : Bool) (mems : Tys)
def joining (mem added : Ty) : Joining :=
 if mem.isSame added {honorTyForm := true} then .absorbs
 else if added.isPseudo && mem.isSame added {ignorePseudo := true, honorTyForm := true} then
  .becomes (added.spec (added.tyArgs?.map (·.map fun _ => unk)))
 else if mem.isObj && added.isObj then
  if elideLits && !mem.hasLit && mem.isSameWithoutLit added then .absorbs
  else if mem.isNamed "bool" && added.isNamed "bool" && mem.conds.isEmpty && added.conds.isEmpty &&
    (match mem.lit?, added.lit? with
     | some (.bool lhs), some (.bool rhs) => lhs == !rhs
     | _, _ => false) then
   .becomes (mem.setLit none)
  else if (mem.cls.narrowedEnts.isSome || added.cls.narrowedEnts.isSome) &&
    mem.sameCls added && mem.tyArgs?.isNone && added.tyArgs?.isNone &&
    (added.isNarrowerTdict mem || mem.isNarrowerTdict added) then
   if added.isNarrowerTdict mem then .absorbs else .becomes added
  else if added.cls.isEmptyContainer && mem.sameCls added then .absorbs
  else .keeps
 else .keeps

def joinMems (added : Ty) : Tys -> Tys
 | [] => [added]
 | mem :: rest =>
  match joining elideLits mem added with
  | .absorbs => mem :: rest
  | .becomes ty => ty :: rest
  | .keeps => mem :: joinMems added rest

def addMem (added : Ty) : Tys :=
 if let some key := litKey? added then
  let alike := mems.filterMap fun mem => if mem.isObj == added.isObj then (litKey? mem).filter key.sameKind else none
  if alike.isEmpty then joinMems elideLits added mems
  else if alike.contains key then mems
  else mems ++ [added]
 else joinMems elideLits added mems

/-- The aliases that a type brings into a union. -/
def aliasSrcs := if let .union _ srcs _ := ty.form then if ty.aliasUse?.isSome then [ty] else srcs else []

def addSrcs (srcs added : Tys) :=
 added.foldl (fun srcs src => if srcs.any (isIdentical src) then srcs else srcs ++ [src]) srcs

def ofMems (srcs : Tys) : Ty :=
 {form := .union mems srcs (mems.any fun mem => mem.isTyVar && mem.shared.recAlias.isSome)
  isInsta := mems.all (·.isInsta), isInst := mems.all (·.isInst)}

/-- Joins a type to those before it, as long as there is room. -/
def addIn (limit : Nat?) : Tys × Bool -> Ty -> Tys × Bool
 | (mems, isOver), ty =>
  if mems.isEmpty then ([ty], isOver)
  else if limit.all (mems.length < ·) then (addMem elideLits mems ty, isOver)
  else (mems, true)

variable (tys : Tys)
def combine (keepLits : Bool := false) (limit : Nat? := none) : Ty :=
 match tys.filter (!·.isNever) with
 | [] => (tys.find? isNoReturn).getD (tys.headD never)
 | first :: rest =>
  if rest.all (isIdentical first) then first
  else
   let all := first :: rest
   let srcs := all.foldl (fun srcs ty => addSrcs srcs ty.aliasSrcs) []
   let expanded := (all.flatMap subtys).mergeSort fun lhs rhs => lhs.rank <= rhs.rank
   match expanded.foldl (addIn (!keepLits) limit) ([], false) with
   | (_, true) => any
   | ([], _) => unk
   | ([only], _) => only
   | (mems, _) => ofMems mems srcs

def addAliasSrc (src : Ty) :=
 if let .union mems srcs isRecursive := ty.form then
  {ty with form := .union mems (addSrcs srcs src.aliasSrcs) isRecursive}
 else ty

def removeMems (removes : Ty -> Bool) :=
 if let .union mems _ _ := ty.form then
  let remaining := mems.filter (!removes ·)
  if remaining.length < mems.length then (combine remaining).addAliasSrc ty else ty
 else ty

def removeUnbound :=
 if ty.isUnion then ty.removeMems isUnbound
 else if ty.isUnbound then unk
 else ty

def removeNone := ty.removeMems isNoneInst

/-! Changing the members of a union. -/

structure MapOpts where
 (keepLits retainAlias : Bool := false)

def remapped (changed : List Ty?) (opts : MapOpts) :=
 if (mems.zip changed).all fun (mem, res) => res.any (isIdentical mem) then ty
 else
  let joined := combine (changed.filterMap id) opts.keepLits
  if opts.retainAlias then
   if let some use := ty.aliasUse? then joined.setAliasUse use else joined
  else joined.addAliasSrc ty

def mapInOrderM {m : Type -> Type} [Monad m] (ty : Ty) (mems : Tys)
  (change : Ty -> m Ty?) (opts : MapOpts := {}) : m Ty := do
 if ty.isUnion then
  return ty.remapped mems (<- mems.mapM change) opts
 else return (<- change ty).getD never

def mapM {m : Type -> Type} [Monad m] (ty : Ty) (change : Ty -> m Ty?)
  (opts : MapOpts := {}) := ty.mapInOrderM ty.subtys change opts

def map (change : Ty -> Ty?) (opts : MapOpts := {}) :=
 if ty.isUnion then ty.remapped ty.subtys (ty.subtys.map change) opts else (change ty).getD never

/-! Conditions. -/

structure AddCondOpts where
 (skipSelf skipBoundVars : Bool := false)

def addConds (conds : List (Cond Ty)) (opts : AddCondOpts := {}) :=
 let conds := conds.filter fun cond =>
  !(opts.skipSelf && cond.tyVar.shared.isSelf) && !(opts.skipBoundVars && cond.tyVar.shared.constrs.isEmpty)
 let add ty := if ty.isCls || ty.isFn then ty.setConds (Cond.combine ty.conds conds) else ty
 if conds.isEmpty then ty
 else match ty.form with
  | .ovld ovls _ => ofOvls (ovls.map add)
  | .union mems _ _ => combine (mems.map add)
  | _ => add ty

def ownConds := if ty.isCls || ty.isFn then ty.conds else []

/-! From class objects to instances and back, member by member. -/

def memInst (ty : Ty) :=
 match ty.form with
 | .cls data =>
  match ty.isNamed "type", ty.isInst, data.tyArgs with
  | true, true, some (first :: _) => first
  | true, true, _ => unk
  | true, false, some (first :: _) =>
   if first.isAnyLike then ty.clsInst orSub
   else first.map fun mem => match mem.form with
    | .cls _ => mem.clsObj
    | .fn _ => mem.baseInsta
    | .tyVar _ => mem.tyVarObj
    | _ => mem
  | _, _, _ => ty.clsInst orSub
 | .fn _ => if ty.isInsta then ty.fnInst else ty
 | .tyVar _ => if ty.isInsta then ty.tyVarInst else ty
 | .any _ => if ty.special?.isSome then any else ty
 | .unk draft _ => if ty.special?.isSome then unkOf draft else ty
 | .never isNoReturn =>
  if ty.special?.isNone && ty.tyForm?.isNone then ty
  else if isNoReturn then noReturn else never
 | .unbound => if ty.special?.isSome then unbound else ty
 | _ => ty

def toInst (orSub : Bool := true) :=
 let res := ty.map (fun mem => memInst orSub mem) {keepLits := true}
 if let some use := ty.aliasUse? then
  if ty.isIdentical res then res else res.setAliasUse use
 else res

def memInsta (mem : Ty) :=
 match mem.form with
 | .cls _ => mem.clsObj orSub
 | .fn _ => mem.baseInsta
 | .tyVar _ => mem.tyVarObj
 | _ => mem

/-- What the values of the type are instances of. -/
def toInsta (orSub : Bool := true) := ty.map fun mem => memInsta orSub mem

/-! Unpacking. -/

def pack :=
 if ty.isUnpCls then ty.withCls ({· with isUnp := false})
 else if ty.isUnpTupVar || ty.isUnpTyVar then ty.packVar
 else ty

def unpack :=
 if ty.isCls then ty.withCls ({· with isUnp := true})
 else if ty.isTupVar && ty.var.isInUnion then ty
 else if ty.isTyVar then ty.unpackVar
 else ty

/-! Tuples. -/

def combineTupArgs : Nat -> List TyTupArg -> Ty
 | 0, _ => unk
 | fuel + 1, args => combine (args.filterMap fun arg =>
  if arg.ty.isUnpTupVar then arg.ty.unpackVar true
  else if arg.ty.isUnpTyVar then
   arg.ty.bound?.bind fun bound => if bound.isTupObj then bound.tupArgs?.map (combineTupArgs fuel) else none
  else arg.ty)

def tupArgsUnion := combineTupArgs maxTyDepth args

def specTup (isExplicit : Bool := true) (isUnp : Bool := false) :=
 let made := ty.spec [tupArgsUnion args] isExplicit false args
 if isUnp then made.withCls ({· with isUnp := true}) else made

def expandUnpTup :=
 if ty.isTupObj && ty.cls.isUnp then
  if let some args := ty.tupArgs? then combine (args.map (·.ty)) else ty
 else ty

/-! Literals. -/

def isLitOrUnion (allowNone : Bool := false) :=
 (ty.isObj || ty.isUnion) && ty.subtys.all fun mem =>
  mem.isObj && (if mem.isNoneInst then allowNone || (mem.hasLit && !ty.isUnion) else mem.hasLit)

def litClsName? : String? :=
 let nameOf mem := if mem.isLitTy && mem.isBuiltIn [] then mem.clsName else none
 let names := ty.subtys.map nameOf
 if names.all (·.isSome) then names.head?.join else none

def isSentinel := ty.isObj && (ty.lit? matches some (.sentinel ..))

def preserveUnk (lhs rhs : Ty) :=
 if lhs.isDraftUnk then lhs
 else if rhs.isDraftUnk then rhs
 else if lhs.isUnk || rhs.isUnk then unk
 else any

def areUnionable := tys.all (·.tyForm?.isSome) || (tys.all (·.isInsta) && !tys.all (·.isInst))
def stripTyForm := ty.setTyForm none
def stripTyFormDeep := ty.stripTyForm.map (some ·.stripTyForm)

end TypeChecker.Ty
