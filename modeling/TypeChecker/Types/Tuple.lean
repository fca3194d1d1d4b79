import TypeChecker.Types.Query

/-! Lining up the entries of two tuples. An entry of any length takes in as many entries of the other tuple as
it has to; after that the tuples are compared entry by entry. -/

namespace TypeChecker.Tup

/-- Replaces some entries by others. -/
def splice {α : Type} (args : List α) (start count : Nat) (inserted : List α) :=
 args.take start ++ inserted ++ args.drop (start + count)

def repeatAt {α : Type} (args : List α) (idx length : Nat) (ent : α) :=
 splice args idx 0 (.replicate (length - args.length) ent)

variable (args : List TyTupArg)
def dropOpt (length : Nat) := args.take length ++ ((args.drop length).reverse.dropWhile (·.isOpt)).reverse

def isVariadic (arg : TyTupArg) := arg.ty.isUnpTupVar || arg.ty.isUnpTyVar

structure Lined where
 (dest src : List TyTupArg)

def packed (tup : Ty) (args : List TyTupArg) : TyTupArg := {ty := (tup.specTup args true true).clsInst}

/-- Fills up entries of any length about which nothing is known; without a counterpart an entry of
any length does not fit. -/
def stretch (dest src : List TyTupArg) : Option Lined :=
 let destIdx := dest.findIdx? fun arg => arg.isUnb || isVariadic arg
 let stretchedSrc : Option (List TyTupArg) :=
  if let some idx := src.findIdx? (·.isUnb) then
   let ent := src[idx]?.elim .any (·.ty)
   if ent.isAnyLike then
    let filled := repeatAt src idx dest.length {ty := ent, isUnb := true}
    some (if dest.length < filled.length then filled.eraseIdx idx else filled)
   else if destIdx.isNone then none
   else src
  else src
 stretchedSrc.map fun src =>
  let dest := if let some (idx, arg) := destIdx.bind fun idx => (dest[idx]?).map (idx, ·) then
    if arg.isUnb && arg.ty.isAnyLike then repeatAt dest idx src.length arg else dest
   else dest
  let src := dropOpt src dest.length
  {dest := dropOpt dest src.length, src}

/-- Joins the entries of the source that the entry of any length of the destination takes in; one of any length
must be among them. -/
def joinSrc (destIdx srcUnb : Nat?) (lined : Lined) : Lined :=
 let {dest, src} := lined
 let count : Int := src.length - dest.length + 1
 if let some idx := destIdx then
  if 0 <= count && srcUnb.all fun place => idx <= place && (place : Int) < idx + count then
   let tys := ((src.drop idx).take count.toNat).map fun arg =>
    if arg.ty.isUnpTupVar then arg.ty.unpackVar true else arg.ty
   {lined with src := splice src idx count.toNat [{ty := if tys.isEmpty then .any else .combine tys}]}
  else lined
 else lined

variable (tup : Ty?)
/-- Lets the entry of any length of the destination take in entries of the source, or, for a
contravariant position, the other way round. -/
def gather (destIdx srcUnb srcMany : Nat?) (isContra : Bool) (lined : Lined) : Lined :=
 let {dest, src} := lined
 let srcCount : Int := src.length - dest.length + 1
 let destCount : Int := dest.length - src.length + 1
 let joinSrc := joinSrc destIdx srcUnb
 if isContra then
  if let some idx := srcMany then
   if destCount < 0 then joinSrc lined
   else
    match destCount == 1 && dest[idx]?.any (·.ty.isTupVar), tup with
    | false, some tup =>
     {lined with dest := splice dest idx destCount.toNat [packed tup ((dest.drop idx).take destCount.toNat)]}
    | _, _ => lined
  else joinSrc lined
 else if let some idx := destIdx then
  if 0 <= srcCount && dest[idx]?.any (·.ty.isTupVar) then
   if let some tup := tup then
    let removed := (src.drop idx).take srcCount.toNat
    let ent := if let [only] := removed then if only.ty.isUnpTupVar then {ty := only.ty} else packed tup removed
     else packed tup removed
    {lined with src := splice src idx srcCount.toNat [ent]}
   else lined
  else joinSrc lined
 else lined

/-- The entries of two tuples as they are compared, and whether they can be. -/
def line (dest src : List TyTupArg) (isContra : Bool) : Lined × Bool :=
 if let some lined := stretch dest src then
  let lined := gather tup (dest.findIdx? fun arg => arg.isUnb || isVariadic arg)
   (src.findIdx? (·.isUnb)) (src.findIdx? isVariadic) isContra lined
  (lined, lined.dest.length == lined.src.length)
 else ({dest, src}, false)

def firstMisfit {m : Type -> Type} [Monad m] (fits : Nat -> Ty -> Ty -> m Bool) :
  Nat -> List (TyTupArg × TyTupArg) -> m Nat?
 | _, [] => pure none
 | idx, (dest, src) :: rest => do
  if dest.ty.isTupVar && dest.ty.var.isUnp && !dest.ty.var.isInUnion && src.ty.isTupGradual then return none
  if <- fits idx dest.ty src.ty then firstMisfit fits (idx + 1) rest else pure idx

/-! Slices. -/

def sliceBound (val : Int) : Nat? :=
 let length : Int := args.length
 let unb := args.findIdx? fun arg => arg.isUnb || arg.ty.isTupVar
 if val < 0 then
  let val := length + val
  if unb.any (val <= ·) then none else val.toNat
 else if unb.any fun idx => (idx : Int) < val then none
 else (min val length).toNat

def slice (start stop : Nat) : Option (List TyTupArg) :=
 if stop < start then none else (args.drop start).take (stop - start)

def sliced (tup : Ty) (start stop : Int?) := do
 let args := tup.tupArgs
 let first <- start.elim (some 0) (sliceBound args)
 let last <- stop.elim (some args.length) (sliceBound args)
 (slice args first last).map fun args => (tup.specTup args).clsInst

/-- The tuples that a tuple with unions as entries stands for. -/
def expand (ty : Ty) (limit : Nat) : Option Tys :=
 match ty.isTup, ty.tupArgs? with
 | true, some args =>
  if args.any fun arg => arg.isUnb || arg.ty.isTupVar then none
  else
   let expanded := args.zipIdx.foldl (fun (tys : Option Tys) (arg, idx) =>
    tys.bind fun tys =>
     let tys :=
      if arg.ty.isUnion then
       tys.flatMap fun tup => arg.ty.subtys.map fun mem =>
        (tup.specTup (tup.tupArgs.set idx {ty := mem})).clsInst
      else tys
     if limit < tys.length then none else tys) [ty]
   expanded.filter (·.length != 1)
 | _, _ => none

def unroll (ty : Ty) (count : Nat) (isOpen : Bool) :=
 ty.specTup <| ty.tupArgs.flatMap fun arg =>
  if arg.isUnb then .replicate count {ty := arg.ty} ++ (if isOpen then [arg] else []) else [arg]

def maxUnrolled : Int := 32

def ofLength (mem tup : Ty) (length : Nat) (isLess holds : Bool) : Ty? :=
 let size := tup.tupArgs.length
 if !tup.tupArgs.any (·.isUnb) then
  if (if isLess then size < length else size == length) == holds then mem else none
 else
  let added : Int := length - size + 1
  if isLess then
   if added > maxUnrolled then mem
   else if !holds then unroll tup added.toNat true
   else if added < 1 then none
   else some (.combine ((List.range added.toNat).map (unroll tup · false)))
  else if added < 0 then if holds then none else mem
  else if holds then unroll tup added.toNat false
  else if length + 1 == size then unroll tup 1 true else mem

end TypeChecker.Tup
