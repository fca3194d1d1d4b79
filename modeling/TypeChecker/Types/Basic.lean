import TypeChecker.Binding.Scope

/-! Types. A type is a form with a few marks: whether it stands for a class object, for its instances or for
both, and what it is known as. -/

namespace TypeChecker

abbrev TyScopeId := Nat

namespace TyScopeId

def ofNode (node : Node) := 2 * node.id + 2
def unification := 0
def inside (id : TyScopeId) := id + 1

end TyScopeId

inductive Variance where
 | auto | unk | invar | covar | contra
 deriving DecidableEq

inductive ParSpecAccess where
 | args | kwargs
 deriving DecidableEq

def ParSpecAccess.name : ParSpecAccess -> String
 | .args => "args" | .kwargs => "kwargs"

inductive TyVarOwner where
 | clsDef | fn | tyAlias
 deriving DecidableEq

structure ClsRef where
 id : Nat
 (name fullName modName : String)
 srcId : Nat
 isBuiltIn := false
 scopeId : Option TyScopeId := none
 isPseudo := false
 deriving Inhabited

structure AliasRef where
 id : Nat
 (name fullName : String)
 scopeId : TyScopeId
 isTyAliasTy := false

/-! Shapes over the type of their parts. -/

structure EnumMem (α : Type) where
 (clsFullName clsName itemName : String)
 itemTy : α
 isReprEnum : Bool

inductive Lit (α : Type) where
 | int (val : Int) (isBig : Bool)
 | bool (val : Bool)
 | text (val : Text)
 | enum (mem : EnumMem α)
 | sentinel (clsFullName clsName : String)

structure AliasUse (α : Type) where
 shared : AliasRef
 tyArgs : Option (List α) := none

structure TyVarShared (α : Type) where
 id : Nat
 kind : TyParKind := .tyVar
 name : String
 constrs : List α := []
 bound : Option α := none
 isDfltGiven := false
 default : Option α := none
 declVariance : Variance := .invar
 (isSynth isSelf : Bool := false)
 synthIdx : Nat? := none
 (isExemptFromBoundCheck isTyParSyntax : Bool := false)
 recAlias : Option AliasRef := none
 deriving Inhabited

structure TyVarForm (α : Type) where
 shared : TyVarShared α
 scopeId : Option TyScopeId := none
 scopeName : String? := none
 owner : Option TyVarOwner := none
 scopedName : String? := none
 computedVariance : Option Variance := none
 isUnification := false
 free : Option α := none
 (isUnp isInUnion : Bool := false)
 access : Option ParSpecAccess := none
 deriving Inhabited

structure Cond (α : Type) where
 tyVar : TyVarForm α
 idx : Nat

structure Props (α : Type) where
 depth : Nat? := none
 (specForm tyForm : Option α := none)
 aliasUse : Option (AliasUse α) := none
 conds : List (Cond α) := []

structure TupArg (α : Type) where
 ty : α
 (isUnb isOpt : Bool := false)
 deriving BEq

structure TdictEnt (α : Type) where
 valTy : α
 (isReq isReadOnly isProvided : Bool)
 deriving BEq

structure PropMeth (α : Type) where
 meth : α
 clsTy : Option α
 deriving BEq

structure ClsForm (α : Type) where
 ref : ClsRef
 tyArgs : Option (List α) := none
 tupArgs : Option (List (TupArg α)) := none
 lit : Option (Lit α) := none
 aliasName : String? := none
 (isEmptyContainer isUnp hasOwnArgs orSub includePromotions : Bool := false)
 (isTdictPartial isAsymDescr : Bool := false)
 narrowedEnts : Option (List (String × TdictEnt α)) := none
 (getter setter deleter : Option (PropMeth α) := none)
 depr : String? := none
 partialCall : Option α := none
 deriving Inhabited

structure FnFlags where
 (ctorMeth clsMeth staticMeth absMeth gen disableDfltChecks : Bool := false)
 (synth tyCheckOnly ovld async stub typedPkg final barePars : Bool := false)
 (gradual sigVal unfinished overridden noTyCheck builtIn : Bool := false)
 deriving DecidableEq, Inhabited

structure ParFlags where
 (nameSynth tyDecl tyInferred : Bool := false)
 deriving DecidableEq

structure Par (α : Type) where
 cat : ParCat
 ty : α
 flags : ParFlags := {}
 name : String? := none
 dfltTy : Option α := none
 dfltExpr : Option Node := none
 deriving BEq

structure SpecdTys (α : Type) where
 pars : List α
 dflts : Option (List (Option α)) := none
 retTy : Option α := none
 deriving BEq

structure DataClsBehav where
 (skipGenerateInit skipGenerateEq generateOrder generateSlots generateHash kwOnly frozen : Bool := false)
 (frozenDflt : Bool := false)
 fieldDescrNames : Strings := []

structure FnForm (α : Type) where
 (name fullName modName : String := "")
 flags : FnFlags := {}
 tyPars : List α := []
 pars : List (Par α) := []
 declRet : Option α := none
 inferredRet : Option α := none
 decl : Option DeclId := none
 scopeId : Option TyScopeId := none
 depr : String? := none
 methCls : Option α := none
 decoBehav : Option DataClsBehav := none
 ctorScopeId : Option TyScopeId := none
 specd : Option (SpecdTys α) := none
 (strippedFirst boundTo : Option α := none)
 preBoundFlags : Option FnFlags := none
 isCallableWithTyArgs := false
 deriving Inhabited

structure ModForm (α : Type) where
 name : String
 uri : ModUri
 scope : ScopeId? := none
 loaded : ByName SymId := []
 notPresent : Option α := none

inductive Form (α : Type) where
 | unbound
 | unk (draft : Bool) (possible : Option α)
 | any (isEllipsis : Bool)
 | never (isNoReturn : Bool)
 | fn (data : FnForm α)
 | ovld (ovls : List α) (impl : Option α)
 | cls (data : ClsForm α)
 | mod (data : ModForm α)
 | union (mems srcs : List α) (isRecursive : Bool)
 | tyVar (data : TyVarForm α)

structure Ty where
 form : Form Ty
 (isInsta isInst : Bool := true)
 isAmbiguous := false
 props : Option (Props Ty) := none

abbrev Ty? := Option Ty
abbrev Tys := List Ty
abbrev ClsData := ClsForm Ty
abbrev FnData := FnForm Ty
abbrev TyVarData := TyVarForm Ty
abbrev TyPar := Par Ty
abbrev TyTupArg := TupArg Ty
def maxTyDepth := 20

namespace Ty

def unbound : Ty := {form := .unbound}
def unk : Ty := {form := .unk false none}
def draftUnk : Ty := {form := .unk true none}
def unkOf (draft : Bool) := if draft then draftUnk else unk
def any : Ty := {form := .any false}
def ellipsis : Ty := {form := .any true}
def never : Ty := {form := .never false}
def noReturn : Ty := {form := .never true}
instance : Inhabited Ty := ⟨unk⟩

/-! Kinds. -/

variable (ty : Ty)
def cat :=
 match ty.form with
 | .unbound => 0 | .unk .. => 1 | .any _ => 2 | .never _ => 3 | .fn _ => 4
 | .ovld .. => 5 | .cls _ => 6 | .mod _ => 7 | .union .. => 8 | .tyVar _ => 9

def isNever := ty.form matches .never _
def isAny := ty.form matches .any _
def isUnk := ty.form matches .unk ..
def isUnbound := ty.form matches .unbound
def isUnion := ty.form matches .union ..
def isCls := ty.form matches .cls _
def isMod := ty.form matches .mod _
def isTyVar := ty.form matches .tyVar _
def isFn := ty.form matches .fn _
def isOvld := ty.form matches .ovld ..
def isRoutine := ty.isFn || ty.isOvld
def isNoReturn := ty.form matches .never true
def isEllipsis := ty.form matches .any true
def isDraftUnk := ty.form matches .unk true _
def isClsObj := ty.isInsta && ty.isCls
def isObj := ty.isInst && ty.isCls

/-! Parts; of a type of another form the part of an empty one. -/

def cls : ClsData := if let .cls data := ty.form then data else default
def cls? : Option ClsData := if let .cls data := ty.form then data else none
def fn : FnData := if let .fn data := ty.form then data else default
def var : TyVarData := if let .tyVar data := ty.form then data else default
def shared := ty.var.shared
def ovls := if let .ovld ovls _ := ty.form then ovls else []
def impl? := if let .ovld _ impl := ty.form then impl else none

def sigs :=
 match ty.form with
 | .ovld ovls _ => ovls
 | .fn _ => [ty]
 | _ => []

def subtys := if let .union mems _ _ := ty.form then mems else [ty]

@[inline] def withCls (change : ClsData -> ClsData) :=
 if let .cls data := ty.form then {ty with form := .cls (change data)} else ty

@[inline] def withFn (change : FnData -> FnData) :=
 if let .fn data := ty.form then {ty with form := .fn (change data)} else ty

@[inline] def withVar (change : TyVarData -> TyVarData) :=
 if let .tyVar data := ty.form then {ty with form := .tyVar (change data)} else ty

/-! What a type is known as. -/

def depth? := ty.props.bind (·.depth)
def depth := ty.depth?.getD 0
def special? := ty.props.bind (·.specForm)
def tyForm? := ty.props.bind (·.tyForm)
def aliasUse? := ty.props.bind (·.aliasUse)
def conds := ty.props.elim [] (·.conds)
@[inline] def withProps (change : Props Ty -> Props Ty) := {ty with props := (change (ty.props.getD {}))}

def setSpec (specForm : Ty?) := if specForm.isNone && ty.special?.isNone then ty else ty.withProps ({· with specForm})

def setTyForm (tyForm : Ty?) := if tyForm.isNone && ty.tyForm?.isNone then ty else ty.withProps ({· with tyForm})

def setAliasUse (aliasUse : Option (AliasUse Ty)) :=
 if aliasUse.isNone && ty.aliasUse?.isNone then ty else ty.withProps ({· with aliasUse})

def setDepth (depth : Nat?) := ty.withProps ({· with depth})

def setConds (conds : List (Cond Ty)) := if conds.isEmpty && ty.conds.isEmpty then ty else ty.withProps ({· with conds})

def asAmbiguous := {ty with isAmbiguous := true}

/-! From class objects to instances and back. -/

def baseInst :=
 let ty := ty.setTyForm none
 if let some depth := ty.depth? then ty.setDepth (if depth <= 1 then none else some (depth - 1))
 else {ty with isInsta := false, isInst := true}

def baseInsta :=
 let lifted :=
  if ty.isInst then {ty with isInst := false, isInsta := true}
  else ty.setDepth (some (match ty.depth? with | none => 1 | some depth => depth + 1))
 (lifted.setAliasUse none).setTyForm none

variable (orSub : Bool := true)
def clsInst :=
 if ty.isInst then ty
 else
  let made := ty.baseInst.setSpec none
  if orSub then made.withCls ({· with orSub := true}) else made

def clsObj :=
 let made := ty.baseInsta
 if orSub then made.withCls ({· with orSub := true}) else made

def fnInst := ty.baseInst.setSpec none

def tyVarInst :=
 (ty.baseInst.setSpec none).withVar fun data => {data with free := data.free.map (·.baseInst.setSpec none)}

def tyVarObj := ty.baseInsta.withVar fun data => {data with free := data.free.map baseInsta}

/-! Classes. -/

def tyArgs? := ty.cls.tyArgs
def tyArgs := ty.cls.tyArgs.getD []
def tupArgs? := ty.cls.tupArgs
def tupArgs := ty.cls.tupArgs.getD []
def lit? := ty.cls.lit
def hasLit := ty.cls.lit.isSome
def clsName := ty.cls.ref.name
def clsFullName := ty.cls.ref.fullName
def ofCls (ref : ClsRef) : Ty := {form := .cls {ref}, isInst := false}

def spec (tyArgs : Option Tys) (isExplicit : Bool? := none) (orSub : Bool := false)
  (tupArgs : Option (List TyTupArg) := none) (isEmptyContainer : Bool? := none) :=
 ty.withCls fun data =>
  {data with
  tyArgs := if tyArgs matches some [] then none else tyArgs
  hasOwnArgs := isExplicit.getD tyArgs.isSome
  orSub := data.orSub || orSub
  tupArgs
  isEmptyContainer := isEmptyContainer.getD data.isEmptyContainer}

def anyForm :=
 any.setSpec (some (.ofCls
  {id := 0, name := "Any", fullName := "typing.Any", modName := "typing", srcId := 1, isBuiltIn := true}))

def setOrSub := ty.withCls ({· with orSub})
def setLit (lit : Option (Lit Ty)) := (ty.withCls ({· with lit})).setAliasUse none

variable (names : Strings)
def isBuiltIn :=
 if let .cls data := ty.form then data.ref.isBuiltIn && (names.isEmpty || names.any fun name =>
  name == data.ref.name || name == data.ref.fullName || data.aliasName == name)
 else false

variable (name : String)
def isNamed := ty.isBuiltIn [name]
def isObjIn := ty.isInst && ty.isBuiltIn names
def isObjOf := ty.isObjIn [name]
def isClsOf := ty.isInsta && ty.isNamed name
def isNoneInst := ty.isObjOf "NoneType"
def isNoneCls := ty.isClsOf "NoneType"
def isTup := ty.isNamed "tuple"
def isTupObj := ty.isObjOf "tuple"
def isLitTy := ty.isInst && ty.hasLit
def isLitLike := ty.hasLit || ty.isNamed "LiteralString"
def isPseudo := ty.cls.ref.isPseudo

def isUnbEnt (arg : TyTupArg) :=
 arg.isUnb || if let .tyVar data := arg.ty.form then data.isUnp && !(data.shared.kind == .tyVarTup && data.isInUnion)
  else false

def isUnbTup := ty.tupArgs.any isUnbEnt

/-! Type variables. -/

def isSigVar : Bool := if let .tyVar data := ty.form then data.shared.kind == .parSpec else false
def isTupVar : Bool := if let .tyVar data := ty.form then data.shared.kind == .tyVarTup else false
def isUnpTupVar := ty.isTupVar && ty.var.isUnp && !ty.var.isInUnion
def isUnpTyVar := ty.isTyVar && !ty.isTupVar && ty.var.isUnp
def isUnpCls := ty.isCls && ty.cls.isUnp
def isUnp := ty.isUnpTupVar || ty.isUnpTyVar || ty.isUnpCls
def isSelfVar := ty.isTyVar && ty.shared.isSelf
def hasConstrs := !ty.shared.constrs.isEmpty
def bound? := ty.shared.bound
def isBoundVar := ty.isTyVar && ty.var.free.isSome

end Ty
namespace TyVarForm
variable {α : Type}
def makeNameWithScope (name : String) (scopeId : TyScopeId) (scopeName : String) :=
 name ++ "." ++ toString scopeId ++ "." ++ scopeName

variable (data : TyVarForm α)
def key := data.scopedName.getD data.shared.name

def setScope (scopeId : TyScopeId) (scopeName : String?) (owner : Option TyVarOwner) :=
 {data with
 scopedName := makeNameWithScope data.shared.name scopeId (scopeName.getD "")
 scopeId, scopeName, owner}

def readableName (includeScope : Bool := true) :=
 if let some scope := data.scopeName then
  if includeScope && !scope.isEmpty then data.shared.name ++ "@" ++ scope else data.shared.name
 else data.shared.name

def variance : Variance :=
 match data.computedVariance.getD data.shared.declVariance with
 | .unk => .covar
 | variance => variance

end TyVarForm
namespace Ty
variable (shared : TyVarShared Ty)
def ofVar : Ty := {form := .tyVar {shared}, isInsta := false}
def ofVarName : Ty := {form := .tyVar {shared}, isInst := false}

variable (ty : Ty)
def setVarScope (scopeId : TyScopeId) (scopeName : String?) (owner : Option TyVarOwner) :=
 ty.withVar (·.setScope scopeId scopeName owner)

def renameVar (name : String) :=
 ty.withVar fun data =>
  {data with
  shared := {data.shared with name}
  scopedName := if let some id := data.scopeId then
    some (TyVarForm.makeNameWithScope name id (data.scopeName.getD ""))
   else data.scopedName}

def unpackVarOnly (isInUnion : Bool) (ty : Ty) :=
 ty.withVar fun data =>
  {data with
  isUnp := true
  isInUnion := data.isInUnion || (isInUnion && data.shared.kind == .tyVarTup)}

def unpackVar (isInUnion : Bool := false) :=
 (ty.unpackVarOnly isInUnion).withVar fun data => {data with free := data.free.map (unpackVarOnly isInUnion)}

def packVarOnly :=
 ty.withVar fun data => {data with isUnp := false, isInUnion := data.isInUnion && data.shared.kind != .tyVarTup}

def packVar := ty.packVarOnly.withVar fun data => {data with free := data.free.map packVarOnly}
def setAccess (access : Option ParSpecAccess) := ty.withVar ({· with access})

def asUnificationVar (usageOffset : Nat?) :=
 if ty.var.isUnification then ty
 else ty.withVar fun data => {data with
  isUnification := true, scopeId := TyScopeId.unification
  scopedName := if let some (pos + 1) := usageOffset then data.key ++ "-" ++ (pos + 1).repr else data.scopedName}

def setComputedVariance (variance : Variance) := ty.withVar ({· with computedVariance := variance})

def asBound :=
 match ty.var.scopeId, ty.var.free with
 | some scopeId, none => ty.withVar fun data =>
  {data.setScope scopeId.inside data.scopeName data.owner with free := ty}
 | _, _ => ty

/-! Functions. -/

end Ty
namespace Par
variable {α : Type} (par : Par α)
def isPosSep := par.cat == .simple && par.name.isNone
def isKwSep := par.cat == .argsList && par.name.isNone
def isNameSynth := par.flags.nameSynth
def isTyDecl := par.flags.tyDecl
def isTyInferred := par.flags.tyInferred
def nameText := par.name.getD ""

end Par
namespace FnForm
variable {α : Type} (data : FnForm α) (idx : Nat)
def parTy? := (data.specd.bind (·.pars[idx]?)) <|> (data.pars[idx]?.map (·.ty))

def parDflt? := ((data.specd.bind (·.dflts)).bind fun dflts => (dflts[idx]?).join) <|> (data.pars[idx]?.bind (·.dfltTy))

def addPar (par : Par α) : FnForm α :=
 {data with
 pars := data.pars ++ [par]
 specd := data.specd.map fun tys => {tys with pars := tys.pars ++ [par.ty]}}

def addPars (pars : List (Par α)) := pars.foldl addPar data
def isInstMeth := !data.flags.ctorMeth && !data.flags.staticMeth && !data.flags.clsMeth
def statedRet? := (data.specd.bind (·.retTy)) <|> data.declRet

def isBuiltIn (names : Strings) :=
 data.flags.builtIn && (names.isEmpty || names.any fun name => name == data.name || name == data.fullName)

end FnForm
namespace Ty
variable (data : FnData)
def ofFn : Ty := {form := .fn data, isInsta := false}
def fnObj : Ty := {form := .fn data, isInst := false}

def synth (name : String) (flags : FnFlags := {}) : FnData :=
 {name, fullName := name, flags := {flags with synth := true}}

variable (ty : Ty)
def parTy (idx : Nat) := (ty.fn.parTy? idx).getD unk
def typedPars := data.pars.mapIdx fun idx par => (par, (data.parTy? idx).getD par.ty)

def bindFn (stripFirst : Bool := false) (boundTo : Ty? := none) : Ty :=
 ty.withFn fun data =>
  let strips := stripFirst && data.pars.head?.any (·.cat == .simple)
  {data with
  preBoundFlags := data.flags
  boundTo
  ctorScopeId := if let some owner := boundTo then
    if data.name == "__new__" || data.name == "__init__" then owner.cls.ref.scopeId else data.ctorScopeId
   else data.ctorScopeId
  strippedFirst := match data.pars with
   | first :: _ =>
    if strips then if first.isTyInferred then any else (data.parTy? 0).getD first.ty
    else data.strippedFirst
   | [] => data.strippedFirst
  pars := if strips then data.pars.drop 1 else data.pars
  specd := data.specd.map fun tys =>
   if stripFirst && !data.pars.isEmpty then
    {tys with pars := tys.pars.drop 1, dflts := tys.dflts.map (·.drop 1)}
   else tys}

def dfltPars (useUnk : Bool := false) : List TyPar :=
 let ty := if useUnk then unk else any
 let flags := {tyDecl := !useUnk}
 [{cat := .argsList, ty, flags, name := "args"}, {cat := .kwargsDict, ty, flags, name := "kwargs"}]

def posSep : TyPar := {cat := .simple, ty := any}
def kwSep : TyPar := {cat := .argsList, ty := any}
def unkParSpec := ofFn {flags := {sigVal := true, gradual := true}, pars := dfltPars}
def unkCallable := ofFn {synth "" {gradual := true} with pars := dfltPars, declRet := unk}

def sigVariadics (parSpec : Ty) : List TyPar :=
 let flags := {tyDecl := true}
 [{cat := .argsList, ty := parSpec.setAccess (some .args), flags, name := "args"},
  {cat := .kwargsDict, ty := parSpec.setAccess (some .kwargs), flags, name := "kwargs"}]

def trailSig? : Ty? :=
 if let last :: beforeLast :: _ := data.pars.reverse then
  let count := data.pars.length
  let argsTy := (data.parTy? (count - 2)).getD unk
  let kwargsTy := (data.parTy? (count - 1)).getD unk
  if beforeLast.cat == .argsList && argsTy.isSigVar &&
    argsTy.var.access == some .args && last.cat == .kwargsDict &&
    kwargsTy.isSigVar && kwargsTy.var.access == some .kwargs then
   some (argsTy.setAccess none)
  else none
 else none

def ofOvls (ovls : Tys) (impl : Ty? := none) : Ty := {form := .ovld ovls impl, isInsta := false}

def isMeth : Bool :=
 match ty.sigs with
 | first :: _ => !(first.fn.preBoundFlags.any (·.ctorMeth)) && first.fn.strippedFirst.isSome
 | [] => false

end Ty
end TypeChecker
