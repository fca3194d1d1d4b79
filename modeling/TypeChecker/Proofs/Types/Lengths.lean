import TypeChecker.Infer.Narrow.Test
import TypeChecker.Proofs.Types.Members
import TypeChecker.Proofs.Types.Tuples

/-! Tests of the length of a tuple: what they leave of a union of tuples. -/

namespace TypeChecker

lemma ClsForm.tupArgs_of_beq {α : Type} {_ : BEq α} {lhs rhs : ClsForm α} (same : Form.cls lhs == .cls rhs) :
  lhs.tupArgs == rhs.tupArgs := by
 change (lhs == rhs) = true at same
 simp only [BEq.beq, sameBy, Bool.and_eq_true] at same
 exact same.2.2.2.1

lemma sameList_of_beq {α : Type} {_ : BEq α} {lefts rights : List α} (same : lefts == rights) : sameList (· == ·) lefts rights := by
 induction lefts generalizing rights with
 | nil => cases rights <;> exact same
 | cons lhs lefts ih =>
  cases rights with
  | nil => exact same
  | cons rhs rights =>
   obtain ⟨first, rest⟩ := Bool.and_eq_true_iff.mp same
   exact Bool.and_eq_true_iff.mpr ⟨first, ih rest⟩

namespace Tup

/-- A tuple type of which nothing is said but its entries. -/
structure IsPlain (ty : Ty) : Prop extends IsTuple ty where
 isPseudo : ty.isPseudo = false
 lit : ty.lit? = none
 ents : ty.cls.narrowedEnts = none
 isEmpty : ty.cls.isEmptyContainer = false

/-- What the entries of tuples stand for: types that are taken for the same stand for the same values. -/
structure Meaning (α : Type) where
 holds : Ty -> α -> Prop
 same {lhs rhs : Ty} {val : α} (honorTyForm : Bool) :
  Ty.isSameIn (maxTyDepth + 1) {honorTyForm} lhs rhs -> (holds lhs val ↔ holds rhs val)
 identical {fuel : Nat} {lhs rhs : Ty} {val : α} : 62 <= fuel -> Ty.isIdenticalIn fuel lhs rhs ->
  (holds lhs val ↔ holds rhs val)

variable {α : Type} {meaning : Meaning α} {mem added : Ty} {mems : Tys} {args more : List TyTupArg} {vals : List α}
lemma IsTuple.form (is : IsTuple mem) : mem.form = .cls mem.cls ∧ mem.tupArgs? = some mem.tupArgs ∧ mem.isInst := by
 obtain ⟨inst, cls⟩ := Bool.and_eq_true_iff.mp is.obj
 have known := is.known
 unfold Ty.isBuiltIn at cls
 unfold Ty.tupArgs? at known ⊢
 unfold Ty.tupArgs
 split at cls
 · next data form => exact ⟨by simp [Ty.cls, form], by cases args : mem.cls.tupArgs <;> simp_all, inst⟩
 · cases cls

lemma has_congr {same : TyTupArg -> TyTupArg -> Bool} (alike : sameList same args more)
  (agrees : ∀ lhs rhs, same lhs rhs -> lhs.isUnb = rhs.isUnb ∧ ∀ val, meaning.holds lhs.ty val ↔ meaning.holds rhs.ty val) :
  Has meaning.holds args vals ↔ Has meaning.holds more vals := by
 induction args generalizing more vals with
 | nil => cases more <;> simp_all [sameList]
 | cons lhs lefts ih =>
  cases more with
  | nil => cases alike
  | cons rhs rights =>
   obtain ⟨first, rest⟩ := Bool.and_eq_true_iff.mp alike
   obtain ⟨isUnb, holds⟩ := agrees lhs rhs first
   simp [Has, isUnb, holds, ih rest]

section
variable (is : IsPlain mem) (also : IsPlain added)
include is also
lemma has_of_same (honorTyForm : Bool) (same : mem.isSame added {honorTyForm}) :
  Has meaning.holds mem.tupArgs vals ↔ Has meaning.holds added.tupArgs vals := by
 have ⟨form, known, _⟩ := is.form
 have ⟨shape, entries, _⟩ := also.form
 unfold Ty.isSame Ty.isSameIn at same
 rw [form, shape] at same
 simp only [Bool.if_false_left, Bool.and_eq_true, Ty.sameClsForm, known, entries, Bool.false_and, Bool.false_or] at same
 refine has_congr same.2.2.2.1.1.1.1.2 fun lhs rhs same => ?_
 simp only [Bool.and_eq_true, beq_iff_eq] at same
 exact ⟨same.2, fun val => meaning.same honorTyForm same.1⟩

lemma has_of_identical {fuel : Nat} (deep : 63 <= fuel) (same : Ty.isIdenticalIn fuel mem added) :
  Has meaning.holds mem.tupArgs vals ↔ Has meaning.holds added.tupArgs vals := by
 have ⟨form, known, _⟩ := is.form
 have ⟨shape, entries, _⟩ := also.form
 obtain ⟨fuel, rfl⟩ := Nat.exists_eq_add_of_le' deep
 rw [Ty.isIdenticalIn, form, shape] at same
 simp only [Bool.and_eq_true] at same
 have args := ClsForm.tupArgs_of_beq same.1.2
 rw [<- Ty.tupArgs?, <- Ty.tupArgs?, known, entries] at args
 refine has_congr (sameList_of_beq args) ?_
 rintro ⟨_, _, _⟩ ⟨_, _, _⟩ same
 change (_ && (_ == _ && _ == _)) = true at same
 simp only [Bool.and_eq_true, beq_iff_eq] at same
 exact ⟨same.2.1, fun val => meaning.identical (by omega) same.1⟩

lemma joining_tuple (meaning : Meaning α) (elides : Bool) : Ty.joining elides mem added = .keeps ∨
  Ty.joining elides mem added = .absorbs ∧
   ∀ vals, Has meaning.holds mem.tupArgs vals ↔ Has meaning.holds added.tupArgs vals := by
 unfold Ty.joining Ty.isSameWithoutLit Ty.hasLit
 have agree honorTyForm (same : mem.isSame added {honorTyForm}) vals :
   Has meaning.holds mem.tupArgs vals ↔ Has meaning.holds added.tupArgs vals := has_of_same is also honorTyForm same
 have := is.lit
 have := also.lit
 have := is.ents
 have := also.ents
 have := also.isPseudo
 have := also.isEmpty
 simp only [Ty.lit?] at *
 grind

end

/-- Tuples as a kind of types. -/
def tuples (meaning : Meaning α) : Ty.Kind (List α) where
 isOne := IsPlain
 has ty vals := IsPlain ty ∧ Has meaning.holds ty.tupArgs vals
 isCls is := by simp [Ty.isCls, is.form.1]
 one := And.left
 identical deep is also same := by
  rw [and_congr_right fun is => has_of_identical is also deep same]
  simp [is, also]
 add {mems added} elides each also := by
  have none : Ty.litKey? added = none := by simp [Ty.litKey?, also.lit]
  rw [Ty.addMem, none]
  dsimp only
  induction mems with
  | nil => exact .inl rfl
  | cons mem rest ih =>
   have is := each mem (by simp)
   have ih := ih fun mem member => each mem (by simp [member])
   rcases joining_tuple is also meaning elides with keeps | ⟨absorbs, same⟩
   · simp only [Ty.joinMems, keeps]
     grind
   · exact .inr ⟨by simp [Ty.joinMems, absorbs], fun vals has => ⟨mem, by simp, is, (same vals).mpr has.2⟩⟩

/-! ## Entries written out -/

lemma has_written {holds : Ty -> α -> Prop} {arg : TyTupArg} (isUnb : arg.isUnb) (count : Nat) (isOpen : Bool) :
  Has holds (.replicate count {ty := arg.ty} ++ if isOpen then [arg] else []) vals ↔
   (∀ val ∈ vals, holds arg.ty val) ∧ if isOpen then count <= vals.length else count = vals.length := by
 induction count generalizing vals with
 | zero => cases isOpen <;> cases vals <;> simp [Has, isUnb]
 | succ count ih =>
  rw [List.replicate_succ, List.cons_append, Has]
  simp only [ih]
  constructor
  · rintro ⟨own, rest, rfl, each, one, also, size⟩
    simp_all
    grind
  · rintro ⟨each, size⟩
    cases vals with
    | nil => split at size <;> simp at size
    | cons val vals => exact ⟨[val], vals, rfl, by grind, by simp, by grind, by grind⟩

lemma IsTuple.parts (is : IsTuple mem) (some : mem.tupArgs.any (·.isUnb)) : ∃ before arg behind,
  mem.tupArgs = before ++ arg :: behind ∧ arg.isUnb ∧ before.countP (·.isUnb) = 0 ∧ behind.countP (·.isUnb) = 0 := by
 obtain ⟨arg, member, isUnb⟩ := List.any_eq_true.mp some
 obtain ⟨before, behind, parts⟩ := List.append_of_mem member
 have single := is.single
 rw [parts, List.countP_append, List.countP_cons, if_pos isUnb] at single
 exact ⟨before, arg, behind, parts, isUnb, by omega, by omega⟩

lemma flatMap_fixed {write : TyTupArg -> List TyTupArg} (none : args.countP (·.isUnb) = 0) :
  args.flatMap (fun arg => if arg.isUnb then write arg else [arg]) = args := by
 induction args <;> simp_all

lemma IsPlain.made (is : IsPlain mem) (single : args.countP (·.isUnb) <= 1) (plain : ∀ arg ∈ args, arg.ty.isTupVar = false) :
  IsPlain (mem.specTup args) ∧ (mem.specTup args).tupArgs = args := by
 have ⟨obj, known, same⟩ := is.specTup args
 obtain ⟨data, form⟩ : ∃ data, mem.form = .cls data := ⟨_, is.form.1⟩
 have bare := And.intro (And.intro is.isPseudo is.lit) (And.intro is.ents is.isEmpty)
 simp only [Ty.isPseudo, Ty.lit?, Ty.cls, form] at bare
 refine ⟨⟨⟨obj, known, by rwa [same], by rwa [same]⟩, ?_, ?_, ?_, ?_⟩, same⟩
 all_goals simp [Ty.specTup, Ty.spec, Ty.withCls, form, Ty.isPseudo, Ty.lit?, Ty.cls, bare]

variable (meaning) (vals)
lemma tuples_is (is : IsPlain mem) : (tuples meaning).Is mem ∧ ((tuples meaning).Holds mem vals ↔ Has meaning.holds mem.tupArgs vals) := by
 have one : (tuples meaning).isOne mem := is
 exact ⟨Ty.Kind.is_one one, (Ty.Kind.holds_one one).trans (by simp [tuples, is])⟩

lemma unroll_holds (is : IsPlain mem) (some : mem.tupArgs.any (·.isUnb)) (count : Nat) (isOpen : Bool) :
  (tuples meaning).Is (unroll mem count isOpen) ∧ ((tuples meaning).Holds (unroll mem count isOpen) vals ↔
   (tuples meaning).Holds mem vals ∧ if isOpen then count + mem.tupArgs.length <= vals.length + 1
    else count + mem.tupArgs.length = vals.length + 1) := by
 obtain ⟨before, arg, behind, parts, isUnb, fixed, also⟩ := is.parts some
 have plain := is.plain
 rw [(tuples_is meaning vals is).2, unroll]
 rw [parts] at plain ⊢
 rw [List.flatMap_append, List.flatMap_cons, flatMap_fixed fixed, flatMap_fixed also, if_pos isUnb]
 generalize writes : List.replicate count _ ++ _ = written
 have single : (before ++ (written ++ behind)).countP (·.isUnb) <= 1 := by
  cases isOpen <;> simp [<- writes, fixed, also, isUnb, List.countP_replicate]
 obtain ⟨made, same⟩ := is.made single (by grind)
 refine ⟨(tuples_is meaning vals made).1, (tuples_is meaning vals made).2.trans ?_⟩
 have whole vals : Has meaning.holds [arg] vals ↔ ∀ val ∈ vals, meaning.holds arg.ty val := by simp [Has, isUnb]
 rw [same, <- writes, <- List.singleton_append (l := behind)]
 simp only [has_append, has_written isUnb, whole]
 constructor
 · rintro ⟨left, _, rfl, first, middle, right, rfl, ⟨each, size⟩, last⟩
   have := first.length_eq fixed
   have := last.length_eq also
   exact ⟨⟨left, _, rfl, first, middle, right, rfl, each, last⟩, by grind⟩
 · rintro ⟨⟨left, _, rfl, first, middle, right, rfl, each, last⟩, size⟩
   have := first.length_eq fixed
   have := last.length_eq also
   exact ⟨left, _, rfl, first, middle, right, rfl, ⟨each, by grind⟩, last⟩

lemma ofLength_holds (is : IsPlain mem) (length : Nat) (isLess holds : Bool) :
  (∀ new ∈ ofLength mem mem length isLess holds, (tuples meaning).Is new) ∧
   ((tuples meaning).Holds mem vals -> ((if isLess then vals.length < length else vals.length = length) ↔ holds) ->
    ∃ new ∈ ofLength mem mem length isLess holds, (tuples meaning).Holds new vals) ∧
   (isLess -> (mem.tupArgs.any (·.isUnb) -> length < 32 + mem.tupArgs.length) ->
    ∀ new ∈ ofLength mem mem length isLess holds, (tuples meaning).Holds new vals ->
     (tuples meaning).Holds mem vals ∧ (vals.length < length ↔ holds)) := by
 have ⟨self, has⟩ := tuples_is meaning vals is
 unfold ofLength
 by_cases some : mem.tupArgs.any (·.isUnb)
 · have made := unroll_holds meaning vals is some
   have least (holds : (tuples meaning).Holds mem vals) : mem.tupArgs.length <= vals.length + 1 := by
    obtain ⟨one, same⟩ := is.made is.single is.plain
    have same : (tuples meaning).Holds (unroll mem 0 true) vals := by
     simpa [unroll, (tuples_is meaning vals one).2, same, <- has] using holds
    simpa using ((made 0 true).2.mp same).2
   have joined (count : Nat) (some : 0 < count) : (tuples meaning).Is (.combine ((List.range count).map (unroll mem · false))) ∧
     ((tuples meaning).Holds (.combine ((List.range count).map (unroll mem · false))) vals ↔
      (tuples meaning).Holds mem vals ∧ vals.length + 1 < count + mem.tupArgs.length) := by
    have each : ∀ new ∈ (List.range count).map (unroll mem · false), (tuples meaning).Is new := by simp [made]
    obtain ⟨holds, joins⟩ := Ty.Kind.holds_combine each
    refine ⟨joins (by simp; omega), (holds vals).trans ?_⟩
    simp only [List.mem_map, List.mem_range, exists_exists_and_eq_and, made]
    constructor
    · grind
    · rintro ⟨has, below⟩
      exact ⟨vals.length + 1 - mem.tupArgs.length, by grind⟩
   simp only [some, maxUnrolled]
   generalize counts : (length : Int) - mem.tupArgs.length + 1 = count
   have := joined count.toNat
   cases isLess <;> cases holds <;> grind
 · have size (has : Has meaning.holds mem.tupArgs vals) : vals.length = mem.tupArgs.length :=
    has.length_eq (by simpa [List.countP_eq_zero] using some)
   simp [some]
   grind

end Tup

/-! ## Types after a test -/

lemma Ty.mapM_eq {m : Type -> Type} [Monad m] [LawfulMonad m] {ty : Ty} {change : Ty -> m Ty?} {result : Ty -> Ty?}
  (known : ∀ mem ∈ ty.subtys, change mem = pure (result mem)) : ty.mapM change = pure (ty.map result) := by
 unfold Ty.mapM mapInOrderM Ty.map
 split
 · have all : ty.subtys.mapM change = pure (ty.subtys.map result) := by
    generalize ty.subtys = mems at known
    induction mems with
    | nil => simp
    | cons first rest ih => simp [known first (by simp), ih fun mem member => known mem (by simp [member])]
   simp [all]
 · next single => simp [known ty (by simp [subtys_of_single single])]

/-- The value of a comparison of a length. -/
def Op.onLengths (op : Op) (lhs rhs : Nat) : Bool :=
 match op with
 | .equals => lhs = rhs
 | .notEquals => lhs ≠ rhs
 | .lessThan => lhs < rhs
 | .lessThanOrEqual => lhs <= rhs
 | .greaterThan => rhs < lhs
 | _ => rhs <= lhs

namespace Infer
open Tup
variable {α : Type} {meaning : Meaning α} {ty : Ty}
lemma narrowByLength_eq (is : (tuples meaning).Is ty) (length : Nat) (isLess holds : Bool) :
  narrowByLength length isLess holds ty = pure (ty.map fun mem => ofLength mem mem length isLess holds) := by
 refine Ty.mapM_eq fun mem member => ?_
 have is : IsPlain mem := is.each mem member
 have ⟨form, args, _⟩ := is.form
 have self : firm mem = pure mem := by simp [firm, Ty.subtys, Ty.isTyVar, form]
 simp +contextual [self, is.obj, args, Ty.isSigVar, form, Ty.isUnpTupVar, is.plain]

lemma narrowByLength_holds (is : (tuples meaning).Is ty) (length : Nat) (isLess holds : Bool) :
  ∃ new, narrowByLength length isLess holds ty = pure new ∧ ∀ vals,
   ((tuples meaning).Holds ty vals -> ((if isLess then vals.length < length else vals.length = length) ↔ holds) ->
    (tuples meaning).Holds new vals) ∧
   (isLess -> (∀ mem ∈ ty.subtys, mem.tupArgs.any (·.isUnb) -> length < 32 + mem.tupArgs.length) ->
    (tuples meaning).Holds new vals -> (tuples meaning).Holds ty vals ∧ (vals.length < length ↔ holds)) := by
 refine ⟨_, narrowByLength_eq is length isLess holds, fun vals => ?_⟩
 have each mem member := ofLength_holds meaning vals (is.each mem member) length isLess holds
 rw [(Ty.Kind.holds_map is fun mem member => (each mem member).1).1]
 constructor
 · rintro ⟨mem, member, has⟩ takes
   exact ⟨mem, member, (each mem member).2.1 ((Ty.Kind.holds_one (is.each mem member)).mpr has) takes⟩
 · rintro less small ⟨mem, member, new, becomes, has⟩
   obtain ⟨has, takes⟩ := (each mem member).2.2 less (small mem member) new becomes has
   exact ⟨⟨mem, member, (Ty.Kind.holds_one (is.each mem member)).mp has⟩, takes⟩

/-- Types told apart by what they are types of: objects or classes. -/
abbrev marks : Meaning Bool where
 holds ty val := ty.isInst = val
 same honors same := by
  unfold Ty.isSameIn at same
  grind
 identical deep same := by
  obtain ⟨fuel, rfl⟩ := Nat.exists_eq_add_of_le' deep
  simp only [Ty.isIdenticalIn, Bool.and_eq_true, beq_iff_eq] at same
  rw [same.1.1.1.2]

end Infer
end TypeChecker
