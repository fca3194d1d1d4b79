import TypeChecker.Types.Transform

/-! Questions about types: what they contain, how they are ordered and how complicated they are. -/

namespace TypeChecker

/-! Operations on the bits of integers in two's complement. -/

namespace Bits

def without (lhs rhs : Nat) := lhs ^^^ (lhs &&& rhs)

def and : Int -> Int -> Int
 | .ofNat lhs, .ofNat rhs => ↑(lhs &&& rhs)
 | .ofNat lhs, .negSucc rhs => ↑(without lhs rhs)
 | .negSucc lhs, .ofNat rhs => ↑(without rhs lhs)
 | .negSucc lhs, .negSucc rhs => .negSucc (lhs ||| rhs)

def or (lhs rhs : Int) := ~~~and (~~~lhs) (~~~rhs)

def xor : Int -> Int -> Int
 | .ofNat lhs, .ofNat rhs => ↑(lhs ^^^ rhs)
 | .ofNat lhs, .negSucc rhs | .negSucc lhs, .ofNat rhs => .negSucc (lhs ^^^ rhs)
 | .negSucc lhs, .negSucc rhs => ↑(lhs ^^^ rhs)

end Bits
namespace Lit

def ofInt (val : Int) : Lit Ty := .int val (9007199254740991 < val.natAbs)
def maxBits := 1 <<< 30

def arithmetic? (limit : Nat?) (op : Op) (lhs rhs : Int) : Int? :=
 let fits bits := limit.all (bits <= ·)
 let size := lhs.natAbs.log2 + 1
 match op with
 | .add => lhs + rhs
 | .subtract => lhs - rhs
 | .multiply => lhs * rhs
 | .floorDivide =>
  let quot := lhs.tdiv rhs
  if rhs = 0 then none else if quot * rhs ≠ lhs ∧ (lhs < 0 ↔ 0 <= rhs) then some (quot - 1) else quot
 | .mod => if rhs = 0 then none else (lhs.tmod rhs + rhs).tmod rhs
 | .power => if 0 <= rhs ∧ (lhs.natAbs <= 1 ∨ fits (size * rhs.toNat)) then lhs.pow rhs.toNat else none
 | .leftShift => if 0 <= rhs ∧ (lhs = 0 ∨ fits (size + rhs.toNat)) then lhs <<< rhs.toNat else none
 | .rightShift => if 0 <= rhs then lhs >>> rhs.toNat else none
 | .bitwiseAnd => Bits.and lhs rhs
 | .bitwiseOr => Bits.or lhs rhs
 | .bitwiseXor => Bits.xor lhs rhs
 | _ => none

def isArithmetic (op : Op) :=
 op matches .add | .subtract | .multiply | .floorDivide | .mod | .power | .leftShift | .rightShift
  | .bitwiseAnd | .bitwiseOr | .bitwiseXor

def negate : Lit Ty -> Lit Ty
 | .int val isBig => .int (-val) isBig
 | lit => lit

def invert : Lit Ty -> Lit Ty
 | .int val isBig => .int (-(if isBig then val else val.bmod (1 <<< 32)) - 1) isBig
 | lit => lit

def integer? : Lit Ty -> Int?
 | .int val _ => val
 | .bool val => some val.toNat
 | _ => none

end Lit
namespace Ty

def maxLitResults := 64
def memCount (ty : Ty) := if ty.isUnion then ty.subtys.length else 1
def hasConds (ty : Ty) := ty.subtys.any (!·.ownConds.isEmpty)

def litUnary? (op : Op) (ty : Ty) : Ty? :=
 let change f := ty.map fun mem => mem.setLit (mem.lit?.map f)
 if ty.memCount >= maxLitResults || ty.hasConds then none
 else match ty.litClsName?, op with
  | some "int", .add => ty
  | some "int", .subtract => change .negate
  | some "int", .bitwiseInvert => change .invert
  | some "bool", .not => (change fun
   | .bool val => .bool (!val)
   | lit => lit)
  | _, _ => none

/-- What joining each member with each of the other gives, if each pair has a result. -/
def pairs? (lhs rhs : Ty) (join : Ty -> Ty -> Ty?) : Ty? :=
 if lhs.subtys.all fun lhs => rhs.subtys.all fun rhs => (join lhs rhs).isSome then lhs.map fun lhs => rhs.map (join lhs)
 else none

def litConcat? (lhs rhs : Ty) : Ty? :=
 match lhs.lit?, rhs.lit? with
 | some (.text left), some (.text right) => lhs.setLit (some (.text (left ++ right)))
 | _, _ => none

def litArithmetic? (limit : Nat?) (op : Op) (lhs rhs : Ty) : Ty? := do
 lhs.setLit (some (.ofInt (<- Lit.arithmetic? limit op (<- lhs.lit?.bind (·.integer?)) (<- rhs.lit?.bind (·.integer?)))))

def litBinary? (op : Op) (lhs rhs : Ty) (limit : Nat? := Lit.maxBits) : Ty? := do
 let name <- lhs.litClsName?
 if lhs.hasConds || rhs.hasConds || rhs.litClsName? != name || lhs.memCount * rhs.memCount >= maxLitResults then none
 else if name == "str" || name == "bytes" then
  if op != .add then none else lhs.pairs? rhs litConcat?
 else if name == "int" && Lit.isArithmetic op then
  lhs.pairs? rhs (litArithmetic? limit op)
 else none

end Ty
namespace Univ
variable (u : Univ)

/-! Parts. -/

variable (ty : Ty)
def parts : Tys :=
 match ty.form with
 | .fn data =>
  ((Ty.typedPars data).filterMap fun (par, ty) =>
   if par.name.isSome then ty else none) ++
   (if data.flags.sigVal then [] else (data.declRet <|> u.inferredRet? data).toList)
 | .ovld ovls impl => ovls ++ impl.toList
 | .cls data =>
  if data.ref.isPseudo then []
  else if let some args := data.tupArgs then args.map (·.ty) else data.tyArgs.getD []
 | .union mems _ _ => mems
 | _ => []

def aliasArgs := (ty.aliasUse?.bind (·.tyArgs)).getD []

variable (test enters : Ty -> Bool) (recurse : Bool) (compare : Ty -> Ty -> Int)
def anyPartIn : Nat -> Ty -> Bool
 | 0, _ => false
 | fuel + 1, ty =>
  test ty || (aliasArgs ty).any (anyPartIn fuel) || (enters ty && (u.parts ty).any (anyPartIn fuel))

def containsLit (includeArgs : Bool := false) : Bool :=
 u.anyPartIn (fun part => part.isObj && part.isLitLike) (includeArgs || !·.isCls) (maxTyDepth + 1) ty

def anyOrUnkIn : Nat -> Ty? -> Ty -> Ty?
 | 0, hit, _ => hit
 | fuel + 1, hit, ty =>
  let note (hit : Ty?) (ty : Ty) := (hit.elim ty (·.preserveUnk ty))
  let below (hit : Ty?) := (u.parts ty).foldl (anyOrUnkIn fuel) hit
  match ty.form with
  | .any _ | .unk .. => note hit ty
  | .cls _ => if recurse then below hit else hit
  | .fn data => if !recurse then hit else below (if data.flags.gradual then note hit .any else hit)
  | _ => below hit

def findAnyOrUnk? := u.anyOrUnkIn recurse (maxTyDepth + 1) none ty

def isPartlyUnkIn : Nat -> Ty -> Bool
 | 0, _ => false
 | fuel + 1, ty =>
  let isPartlyUnk := isPartlyUnkIn fuel
  ty.isUnk || (aliasArgs ty).any isPartlyUnk || match ty.form with
  | .union mems _ _ => mems.any isPartlyUnk
  | .cls data => data.orSub && (u.parts ty).any isPartlyUnk
  | .ovld ovls _ => ovls.any isPartlyUnk
  | .fn data =>
   (Ty.typedPars data).any (fun (par, ty) =>
    !par.nameText.isEmpty && isPartlyUnk ty) ||
    (!data.flags.sigVal && data.declRet.any isPartlyUnk)
  | _ => false

def isPartlyUnk := u.isPartlyUnkIn (maxTyDepth + 1) ty

/-! Order. -/

def compareNames (lhs rhs : String) := if lhs < rhs then -1 else if rhs < lhs then 1 else 0

def compareLists : Tys -> Tys -> Int
 | lhs :: lefts, rhs :: rights =>
  let res := compare lhs rhs
  if res != 0 then res else compareLists lefts rights
 | _, _ => 0

def compareClasses (lhs rhs : Ty) :=
 let isGeneric ty := !(u.tyPars ty).isEmpty
 let litOrder :=
  if lhs.sameCls rhs then
   match lhs.lit?, rhs.lit? with
   | some (.text lhs), some (.text rhs) =>
    if lhs.toList < rhs.toList then -1 else if rhs.toList < lhs.toList then 1 else 0
   | some (.int lhs false), some (.int rhs false) => if lhs < rhs then -1 else if rhs < lhs then 1 else 0
   | _, _ => 0
  else 0
 if lhs.isObj && rhs.isClsObj then -1
 else if lhs.isClsObj && rhs.isObj then 1
 else if lhs.isLitTy && !rhs.isLitTy then -1
 else if lhs.isLitTy && litOrder != 0 then litOrder
 else if !lhs.isLitTy && rhs.isLitTy then 1
 else if lhs.isNamed "NoneType" then 1
 else if rhs.isNamed "NoneType" then -1
 else if (isGeneric lhs || lhs.isTup) && !isGeneric rhs then 1
 else if !(isGeneric lhs || lhs.isTup) && (isGeneric rhs || rhs.isTup) then -1
 else
  let byName := compareNames lhs.clsName rhs.clsName
  if byName != 0 then byName
  else
   let byCount := (lhs.tyArgs.length : Int) - rhs.tyArgs.length
   if byCount != 0 then byCount else compareLists compare lhs.tyArgs rhs.tyArgs

def compareFns (lhs rhs : FnData) :=
 if lhs.pars.length != rhs.pars.length then (rhs.pars.length : Int) - lhs.pars.length
 else
  let pars := (Ty.typedPars lhs).zip (Ty.typedPars rhs)
  let byPars := pars.foldl (fun (hit : Int) ((lhsPar, lhsTy), (rhsPar, rhsTy)) =>
   if hit != 0 then hit
   else if lhsPar.cat != rhsPar.cat then (rhsPar.cat.ctorIdx : Int) - lhsPar.cat.ctorIdx
   else compare lhsTy rhsTy) 0
  if byPars != 0 then byPars
  else
   let byRet := compare ((u.effRet? lhs).getD .unk) ((u.effRet? rhs).getD .unk)
   if byRet != 0 then byRet else compareNames lhs.name rhs.name

def compareIn : Nat -> Ty -> Ty -> Int
 | 0, _, _ => 0
 | fuel + 1, lhs, rhs =>
  let compare := compareIn fuel
  if lhs.cat != rhs.cat then (rhs.cat : Int) - lhs.cat
  else match lhs.form, rhs.form with
   | .fn lhsData, .fn rhsData => u.compareFns compare lhsData rhsData
   | .ovld lefts _, .ovld rights _ =>
    if lefts.length != rights.length then (rights.length : Int) - lefts.length
    else compareLists compare lefts rights
   | .cls _, .cls _ => u.compareClasses compare lhs rhs
   | .mod lhsData, .mod rhsData => compareNames lhsData.name rhsData.name
   | .tyVar lhsData, .tyVar rhsData => compareNames lhsData.shared.name rhsData.shared.name
   | _, _ => 0

def sortTys (tys : Tys) := tys.mergeSort fun lhs rhs => !(u.compareIn (maxTyDepth + 1) rhs lhs < 0)

/-! Complexity. -/

def costIn : Nat -> Ty -> Float
 | 0, _ => 1
 | fuel + 1, ty =>
  let cost := costIn fuel
  match ty.form with
  | .any _ | .unk .. => 0.5
  | .tyVar _ => if ty.isInsta then 0.55 else 0.5
  | .fn _ | .ovld .. => if ty.isInsta then 0.85 else 0.8
  | .unbound | .never _ => 1
  | .union mems _ _ =>
   if mems.length < 16 then
    mems.foldl (fun score mem =>
     let own := cost mem
     if score < own then own else score) 0
   else 0.5
  | .cls data =>
   let args := match data.tupArgs, data.tyArgs with
    | some args, _ => args.map fun (arg : TyTupArg) => cost arg.ty
    | none, some args => args.map cost
    | none, none => (u.tyPars ty).map fun _ => 0.5
   let score := 0.5 + (if args.isEmpty then 0 else args.foldl (· + ·) 0 / args.length.toFloat) * 0.25
   if ty.isClsObj then score + 0.05 else score
  | .mod _ => 0

def cost := u.costIn (maxTyDepth + 1) ty

/-! Type parameters. -/

def specFormsWithArgs := words "Tuple Callable Generic Type Optional Union Literal Annotated TypeGuard TypeIs"

def requiresTyArgs :=
 match u.tyPars ty with
 | first :: _ => !first.shared.isSynth && !first.shared.isDfltGiven
 | [] => u.isSpec ty && specFormsWithArgs.contains (ty.cls.aliasName.getD ty.clsName)

def isVarianceCompatIn : Nat -> Ty -> Variance -> Bool
 | 0, _, _ => true
 | fuel + 1, ty, variance =>
  if variance matches .unk | .auto then true
  else if ty.isTyVar && !ty.isSigVar && !ty.isTupVar then
   match ty.shared.declVariance with
   | .contra => variance == .contra
   | .covar => variance == .covar
   | _ => true
  else if ty.isObj then
   ((u.tyPars ty).zipIdx).all fun (par, idx) =>
    if par.isSigVar || par.isTupVar then true
    else match par.shared.declVariance with
     | .auto => true
     | declared =>
      let eff :=
       if declared == .covar then variance
       else if declared == .contra then
        match variance with
        | .covar => .contra
        | .contra => .covar
        | _ => .invar
       else .invar
      isVarianceCompatIn fuel (ty.tyArgs.getD idx .unk) eff
  else true

def isVarianceCompat (variance : Variance) := u.isVarianceCompatIn 64 ty variance

/-! Tuples. -/

def combineSameSizedTuples (tupCls : Ty?) : Ty :=
 if let some tupCls := tupCls then
  if !tupCls.isClsObj || tupCls.isUnbTup then ty
  else
   let entsOf mem :=
    let isBounded ty := ty.isCls && ty.isTup && !ty.isUnbTup
    if !mem.isObj then none
    else
     let tup := if isBounded mem then some mem else (u.mro mem).find? isBounded
     (tup.bind Ty.tupArgs?).map (·.map (·.ty))
   if let some (first :: rest) := ty.subtys.mapM entsOf then
    if rest.all (·.length == first.length) then
     let columns := first.mapIdx fun idx ent => ent :: rest.map (·.getD idx .unk)
     (tupCls.specTup (columns.map ({ty := .combine ·}))).toInst
    else ty
   else ty
 else ty

def genArgs? :=
 if !ty.isObj then none
 else if ty.isBuiltIn ["Generator", "AsyncGenerator"] then ty.tyArgs?
 else if ty.isNamed "AwaitableGenerator" then ty.tyArgs?.map (·.take 3)
 else none

end Univ
namespace Variance

def invert : Variance -> Variance
 | .contra => .covar
 | .covar => .contra
 | variance => variance

def combine (lhs rhs : Variance) :=
 match lhs, rhs with
 | .unk, _ => rhs
 | _, .invar | .contra, .covar | .covar, .contra => .invar
 | _, _ => lhs

end Variance
namespace Ty

def genYield? (declared : Ty) (isAsync : Bool) : Ty? :=
 let names :=
  if isAsync then ["AsyncIterable", "AsyncIterator", "AsyncGenerator"]
  else ["Iterable", "Iterator", "Generator", "AwaitableGenerator"]
 let yieldOf mem :=
  if mem.isAnyLike then mem
  else if mem.isObj && mem.isBuiltIn names then mem.tyArgs.headD unk
  else none
 if declared.subtys.all fun mem => (yieldOf mem).isSome then declared.map yieldOf else none

def cleanDraftIn : Nat -> Ty -> Ty
 | 0, ty => ty
 | fuel + 1, ty =>
  let res := ty.map fun mem =>
   if mem.isDraftUnk then none
   else match mem.tupArgs?, mem.tyArgs? with
    | some args, some _ =>
     let new := args.map fun arg => {arg with ty := cleanDraftIn fuel arg.ty}
     if (args.zip new).all fun (old, new) => old.ty.isIdentical new.ty then mem
     else mem.specTup new mem.cls.hasOwnArgs mem.cls.isUnp
    | none, some args =>
     let new := args.map (cleanDraftIn fuel)
     if (args.zip new).all fun (old, new) => old.isIdentical new then mem
     else mem.spec new mem.cls.hasOwnArgs
    | _, none => mem
  if res.isNever then ty else res

variable (ty : Ty)
def cleanDraft := cleanDraftIn maxTyDepth ty

def explodeGeneric :=
 if let some [only] := ty.tyArgs? then
  if only.isUnion then combine (only.subtys.map (ty.spec [·])) else ty
 else ty

def isTupGradual := ty.isTupObj && if let some [only] := ty.tupArgs? then only.isUnb && only.ty.isAnyLike else false

def isTupIdxUnambiguous (idx : Int) :=
 match ty.tupArgs? with
 | none => false
 | some args =>
  let unb := args.findIdx? isUnbEnt
  if idx < 0 then ((unb.getD 0 : Nat) : Int) <= idx + args.length else idx < (unb.getD args.length : Nat)

def isSameVar (tyVar other : Ty) :=
 tyVar.isSame other ||
  (!tyVar.isSigVar && !tyVar.isTupVar && tyVar.bound?.isSome && other.isUnion &&
   other.subtys.all fun mem => tyVar.isSame mem || mem.ownConds.any (·.tyVar.scopedName == tyVar.var.scopedName))

def mapSigsM {m : Type -> Type} [Monad m] (ty : Ty) (change : Ty -> m Ty?) : m Ty? := do
 if ty.isFn then change ty
 else
  let news := (<- ty.ovls.mapM change).filterMap id
  let impl <- if let some impl := ty.impl? then if impl.isFn then change impl else pure impl else pure none
  let isChanged := ty.impl?.any isFn || !sameList isIdentical ty.ovls news
  match news with
  | [] => pure none
  | [only] => return if isChanged then only else ty
  | _ => return if isChanged then ofOvls news impl else ty

end Ty

/-! Signatures that occur in several places of one call. -/

namespace SigUse
variable (uses : List SigUse) (sig : Ty)
def find? := uses.find? (sig.isSame ·.ty)

def add (pos : Nat) :=
 if (find? uses sig).isSome then
  uses.map fun known =>
   if sig.isSame known.ty && !known.offsets.contains pos then {known with offsets := known.offsets ++ [pos]}
   else known
 else uses ++ [{ty := sig, offsets := [pos]}]

end SigUse

def Univ.uniqueSig (u : Univ) (pos : Nat) (within : Ty?) (ty : Ty) : MorphM (Option Ty?) := do
 let data := ty.fn
 if data.tyPars.isEmpty then return none
 let eff := within.getD ty
 let known := SigUse.find? (<- get).sigs eff
 let renamed := known.bind fun known =>
  let idx := (known.offsets.findIdx? (· == pos)).getD known.offsets.length
  if idx == 0 then none
  else
   let sol := data.tyPars.foldl (fun sol par =>
    if par.var.owner == some .fn then
     sol.setTy par (par.renameVar (par.shared.name ++ "(" ++ idx.repr ++ ")"))
    else sol) {}
   some (u.applySol ty sol)
 modify fun s => {s with sigs := SigUse.add s.sigs eff pos}
 pure renamed

def Univ.makeSigsUnique (u : Univ) (uses : List SigUse) (pos : Nat) (ty : Ty) : Ty × List SigUse :=
 let (ty, state) := (u.morph
  {skipsAliases := true, skipsClasses := true, onFn := (u.uniqueSig pos)}
  ty).run {sigs := uses}
 (ty, state.sigs)

end TypeChecker
