import TypeChecker.Types.Basic

/-! When two types are the same: identical in all their parts, or the same type for the purposes of a check
that leaves some parts out. -/

namespace TypeChecker

/-! Identity. -/

section Identity
variable {α : Type}
def sameOption (same : α -> α -> Bool) : Option α -> Option α -> Bool
 | none, none => true
 | some lhs, some rhs => same lhs rhs
 | _, _ => false

def sameList (same : α -> α -> Bool) : List α -> List α -> Bool
 | [], [] => true
 | lhs :: lefts, rhs :: rights => same lhs rhs && sameList same lefts rights
 | _, _ => false

/-- Whether two literals have the same value; a member of an enumeration is known by its name. -/
def Lit.isSame : Lit α -> Lit α -> Bool
 | .enum lhs, .enum rhs => lhs.itemName == rhs.itemName
 | .sentinel lhs _, .sentinel rhs _ => lhs == rhs
 | .int lhs lhsBig, .int rhs rhsBig => lhs == rhs && lhsBig == rhsBig
 | .bool lhs, .bool rhs | .text lhs, .text rhs => lhs == rhs
 | _, _ => false

def sameBy {β γ : Type} [BEq γ] (key : β -> γ) (lhs rhs : β) := key lhs == key rhs

variable [BEq α]
instance : BEq (Lit α) where
 beq
 | .enum lhs, .enum rhs =>
  lhs.clsFullName == rhs.clsFullName && lhs.itemName == rhs.itemName && lhs.itemTy == rhs.itemTy
 | lhs, rhs => lhs.isSame rhs

instance : BEq (AliasUse α) := ⟨sameBy fun use => (use.shared.id, use.tyArgs)⟩

instance : BEq (TyVarShared α) :=
 ⟨sameBy fun var => (var.id, var.name, var.kind, var.declVariance, var.bound, var.constrs.length, var.isDfltGiven)⟩

instance : BEq (TyVarForm α) :=
 ⟨sameBy fun var => (var.shared, var.scopeId, var.scopedName, var.isUnp, var.isInUnion, var.access,
  var.computedVariance, var.free.isSome)⟩

instance : BEq (Cond α) := ⟨sameBy fun cond => (cond.idx, cond.tyVar.scopedName, cond.tyVar.shared.name)⟩

deriving instance BEq for Props

instance : BEq (ClsForm α) :=
 ⟨sameBy fun cls => (cls.ref.id, cls.ref.isPseudo, cls.tyArgs, cls.tupArgs, cls.lit, cls.aliasName,
  cls.isEmptyContainer, cls.isUnp, cls.hasOwnArgs, cls.orSub, cls.includePromotions, cls.isTdictPartial,
  cls.narrowedEnts, cls.getter, cls.setter, cls.deleter, cls.depr, cls.partialCall)⟩

instance : BEq (FnForm α) where
 beq lhs rhs :=
  sameBy (fun fn => (fn.name, fn.fullName, fn.flags, fn.decl, fn.scopeId, fn.ctorScopeId, fn.depr, fn.preBoundFlags,
   fn.pars, fn.tyPars, fn.declRet, fn.methCls, fn.strippedFirst, fn.boundTo, fn.specd)) lhs rhs &&
   ((lhs.decl.isSome && lhs.inferredRet.isSome != rhs.inferredRet.isSome) || lhs.inferredRet == rhs.inferredRet)

instance : BEq (ModForm α) := ⟨sameBy fun mod => (mod.name, mod.scope, mod.loaded)⟩

deriving instance BEq for Form

end Identity
namespace Ty

def isIdenticalIn : Nat -> Ty -> Ty -> Bool
 | 0, _, _ => true
 | fuel + 1, lhs, rhs =>
  let _ : BEq Ty := ⟨isIdenticalIn fuel⟩
  lhs.isInsta == rhs.isInsta && lhs.isInst == rhs.isInst && lhs.isAmbiguous == rhs.isAmbiguous &&
   lhs.form == rhs.form && lhs.props == rhs.props

def isIdentical (lhs rhs : Ty) := isIdenticalIn 64 lhs rhs

end Ty

/-! Sameness. -/

structure SameOpts where
 (ignorePseudo ignoreMarks ignoreConds ignoreNarrowedEnts honorTyForm : Bool := false)
 (honorExplicitArgs anyIsUnk : Bool := false)

namespace Cond
variable {α : Type}
def compare (lhs rhs : Cond α) :=
 (Ord.compare lhs.tyVar.shared.name rhs.tyVar.shared.name).then (Ord.compare lhs.idx rhs.idx)

variable (lhs rhs : List (Cond α))
def combine : List (Cond α) :=
 match lhs, rhs with
 | [], _ => rhs
 | _, [] => lhs
 | _, _ =>
  let all := rhs.foldl (fun all cond => if all.any (cond.compare · == .eq) then all else all ++ [cond]) lhs
  all.mergeSort fun lhs rhs => (lhs.compare rhs).isLE

def areSame := sameList (fun lhs rhs => lhs.tyVar.scopedName == rhs.tyVar.scopedName && lhs.idx == rhs.idx) lhs rhs

def areCompat :=
 rhs.isEmpty || lhs.all fun cond =>
  let ofVar := rhs.filter (·.tyVar.scopedName == cond.tyVar.scopedName)
  ofVar.isEmpty || ofVar.any (·.idx == cond.idx)

end Cond
namespace Ty
variable (lhs rhs : Ty)
def sameLit := sameOption Lit.isSame lhs.lit? rhs.lit?

def sameNarrowedEnts : Bool :=
 match lhs.cls.narrowedEnts, rhs.cls.narrowedEnts with
 | none, none => true
 | some lefts, some rights =>
  lefts.length == rights.length && lefts.all fun (key, ent) =>
   (rights.lookup key).any (·.isProvided == ent.isProvided)
 | _, _ => false

def isNarrowerTdict :=
 (rhs.cls.narrowedEnts.getD []).all fun (key, ent) =>
  !ent.isProvided || ((lhs.cls.narrowedEnts.getD []).lookup key).any (·.isProvided)

def isOfSameCls :=
 match lhs.form, rhs.form with
 | .cls lhsData, .cls rhsData =>
  lhsData.isTdictPartial == rhsData.isTdictPartial && (lhsData.ref.id == rhsData.ref.id ||
    (lhsData.ref.srcId == rhsData.ref.srcId && lhsData.ref.fullName == rhsData.ref.fullName))
 | _, _ => false

def sameCls := lhs.isOfSameCls rhs && lhs.isInst == rhs.isInst && lhs.depth == rhs.depth

section
variable (same : SameOpts -> Ty -> Ty -> Bool) (opts : SameOpts)
def sameTyArgs (lhs rhs : Tys) (missing : Ty) :=
 (List.range (max lhs.length rhs.length)).all fun idx => same opts (lhs.getD idx missing) (rhs.getD idx missing)

def sameClsForm (lhs rhs : Ty) :=
 let inner := {opts with ignoreMarks := false}
 sameCls lhs rhs && (opts.ignoreConds || Cond.areSame lhs.conds rhs.conds) &&
  ((opts.ignorePseudo && lhs.isPseudo) ||
   match lhs.tupArgs?, rhs.tupArgs? with
   | some lhs, some rhs => sameList (fun lhs rhs => same inner lhs.ty rhs.ty && lhs.isUnb == rhs.isUnb) lhs rhs
   | _, _ => sameTyArgs same inner lhs.tyArgs rhs.tyArgs unk) &&
  lhs.sameLit rhs && lhs.cls.isUnp == rhs.cls.isUnp &&
  (!opts.honorExplicitArgs || lhs.cls.hasOwnArgs == rhs.cls.hasOwnArgs) &&
  (opts.ignoreNarrowedEnts || lhs.sameNarrowedEnts rhs)

variable (lhs rhs : FnData)
/-- Parameters behind the separator are known by their names. -/
def samePars :=
 let inner := {opts with ignoreMarks := false}
 let firstNamed data := if let some idx := data.pars.findIdx? Par.isPosSep then idx + 1 else 0
 let (lhsNamed, rhsNamed) := (firstNamed lhs, firstNamed rhs)
 lhs.pars.length == rhs.pars.length &&
  ((lhs.pars.zip rhs.pars).zipIdx).all fun ((lhsPar, rhsPar), idx) =>
   lhsPar.cat == rhsPar.cat && decide (lhsNamed <= idx) == decide (rhsNamed <= idx) &&
    let sameTy := same inner ((lhs.parTy? idx).getD unk) ((rhs.parTy? idx).getD unk)
    if lhsNamed <= idx then lhsPar.name == rhsPar.name && sameTy
    else (lhsPar.isPosSep && rhsPar.isPosSep) || (lhsPar.isKwSep && rhsPar.isKwSep) || sameTy

def sameRet :=
 match lhs.statedRet? <|> lhs.inferredRet, rhs.statedRet? <|> rhs.inferredRet with
 | some lhsTy, some rhsTy => same {opts with ignoreMarks := false} lhsTy rhsTy
 | none, none => true
 | _, _ => lhs.decl.isSome && lhs.decl == rhs.decl

def sameVarForm (lhs rhs : Ty) :=
 let inner := {opts with ignoreMarks := false}
 let (left, right) := (lhs.shared, rhs.shared)
 lhs.var.scopeId == rhs.var.scopeId && lhs.var.scopedName == rhs.var.scopedName &&
  (left.recAlias.isNone || right.recAlias.isNone ||
   sameTyArgs same inner ((lhs.aliasUse?.bind (·.tyArgs)).getD []) ((rhs.aliasUse?.bind (·.tyArgs)).getD []) any) &&
  !(lhs.isTupVar && rhs.isTupVar && lhs.var.isInUnion != rhs.var.isInUnion) &&
  left.kind == right.kind && left.name == right.name && left.isSynth == right.isSynth &&
  left.declVariance == right.declVariance &&
  (left.recAlias.isSome || sameOption (same inner) left.bound right.bound) &&
  sameList (same inner) left.constrs right.constrs

def sameMems : Tys -> Tys -> Bool
 | [], _ => true
 | mem :: rest, others =>
  if let some idx := others.findIdx? (same opts · mem) then sameMems rest (others.eraseIdx idx)
  else false

end

/-- Whether two types are the same; beyond the given depth they count as the same. -/
def isSameIn : Nat -> SameOpts -> Ty -> Ty -> Bool
 | 0, _, _, _ => true
 | fuel + 1, opts, lhs, rhs =>
  let same := isSameIn fuel
  if lhs.cat != rhs.cat then opts.anyIsUnk && ((lhs.isAny && rhs.isUnk) || (lhs.isUnk && rhs.isAny))
  else if !opts.ignoreMarks && (lhs.isInsta != rhs.isInsta || lhs.isInst != rhs.isInst) then false
  else if opts.honorTyForm && !sameOption (same opts) lhs.tyForm? rhs.tyForm? then false
  else
   match lhs.form, rhs.form with
   | .cls _, .cls _ => sameClsForm same opts lhs rhs
   | .fn lhsData, .fn rhsData =>
    lhsData.flags.gradual == rhsData.flags.gradual &&
     samePars same opts lhsData rhsData && sameRet same opts lhsData rhsData
   | .ovld lefts _, .ovld rights _ => sameList (same opts) lefts rights
   | .union lefts _ _, .union rights _ _ => lefts.length == rights.length && sameMems same opts lefts rights
   | .tyVar _, .tyVar _ => sameVarForm same opts lhs rhs
   | .mod lhsData, .mod rhsData => lhsData.scope == rhsData.scope
   | .unk lhsDraft _, .unk rhsDraft _ => lhsDraft == rhsDraft
   | _, _ => true

def isSame (lhs rhs : Ty) (opts : SameOpts := {}) := isSameIn (maxTyDepth + 2) opts lhs rhs

/-- Whether two types are the same when the value of a literal in the second is left out. -/
def isSameWithoutLit (dest src : Ty) :=
 dest.isSame src || (src.hasLit && dest.isSame (src.setLit none) {ignoreConds := !src.isInsta})

def areAllSame (tys : Tys) (opts : SameOpts := {}) :=
 if let first :: rest := tys then rest.all (first.isSame · opts) else true

end Ty
end TypeChecker
