import TypeChecker.Proofs.Types.Members
import Mathlib.Data.Int.Bitwise

/-! Operators on literal integers: what a type of integers becomes, the values and how they are held. -/

namespace TypeChecker

/-! ## Operators on integers -/

namespace Op

/-- Where an operator has no value. -/
def isUndefined (op : Op) (rhs : Int) : Bool :=
 match op with
 | .floorDivide | .mod => rhs = 0
 | .power | .leftShift | .rightShift => rhs < 0
 | _ => false

def onInts (op : Op) (lhs rhs : Int) : Int :=
 match op with
 | .add => lhs + rhs
 | .subtract => lhs - rhs
 | .multiply => lhs * rhs
 | .floorDivide => lhs.fdiv rhs
 | .mod => lhs.fmod rhs
 | .power => lhs ^ rhs.toNat
 | .leftShift => lhs * 2 ^ rhs.toNat
 | .rightShift => lhs.fdiv (2 ^ rhs.toNat)
 | .bitwiseAnd => lhs.land rhs
 | .bitwiseOr => lhs.lor rhs
 | _ => lhs.xor rhs

def onInt (op : Op) (val : Int) : Int :=
 match op with
 | .subtract => -val
 | .bitwiseInvert => -val - 1
 | _ => val

end Op
namespace Bits

lemma and_eq (lhs rhs : Int) : and lhs rhs = lhs.land rhs := by
 have without_eq (lhs rhs : Nat) : without lhs rhs = lhs.ldiff rhs := by
  refine Nat.eq_of_testBit_eq fun bit => ?_
  cases left : lhs.testBit bit <;> simp [without, Nat.testBit_ldiff, left]
 cases lhs <;> cases rhs <;> simp [and, Int.land, without_eq]

lemma or_eq (lhs rhs : Int) : or lhs rhs = lhs.lor rhs := by
 rw [or, and_eq]
 cases lhs <;> cases rhs <;> rfl

lemma xor_eq (lhs rhs : Int) : xor lhs rhs = lhs.xor rhs := by cases lhs <;> cases rhs <;> rfl

end Bits

/-- A quotient rounded towards zero, mended where the signs differ, is rounded down. -/
lemma tdiv_floor (lhs : Int) {rhs : Int} (nonzero : rhs ≠ 0) :
  (if lhs.tdiv rhs * rhs ≠ lhs ∧ (lhs < 0 ↔ 0 <= rhs) then lhs.tdiv rhs - 1 else lhs.tdiv rhs) = lhs.fdiv rhs := by
 have whole : lhs.tdiv rhs * rhs = lhs ↔ rhs ∣ lhs := by
  rw [Int.dvd_iff_tmod_eq_zero, Int.tmod_def, Int.mul_comm]
  omega
 rw [Int.fdiv_eq_tdiv]
 rcases Int.lt_or_gt_of_ne nonzero with below | above
 · have sign := Int.sign_eq_neg_one_of_neg below
   grind
 · have sign := Int.sign_eq_one_of_pos above
   grind

lemma tmod_floor (lhs : Int) {rhs : Int} (nonzero : rhs ≠ 0) : (lhs.tmod rhs + rhs).tmod rhs = lhs.fmod rhs := by
 have same : (lhs.tmod rhs + rhs).fmod rhs = lhs.fmod rhs := by
  rw [Int.add_fmod_right, Int.tmod_def, Int.sub_mul_fmod_self_left]
 have less : (lhs.tmod rhs).natAbs < rhs.natAbs := by
  rw [Int.natAbs_tmod]
  exact Nat.mod_lt _ (Int.natAbs_pos.mpr nonzero)
 rw [Int.tmod_eq_fmod, same]
 grind

lemma Lit.arithmetic?_eq {op : Op} (known : isArithmetic op) (lhs rhs : Int) :
  arithmetic? none op lhs rhs = if op.isUndefined rhs then none else some (op.onInts lhs rhs) := by
 cases op <;> cases known <;>
  simp [Op.isUndefined, arithmetic?, Op.onInts, Bits.and_eq, Bits.or_eq, Bits.xor_eq, Int.shiftLeft_eq]
 case floorDivide =>
  split
  · rfl
  · next nonzero => rw [<- tdiv_floor lhs nonzero, <- apply_ite]
 case mod =>
  split
  · rfl
  · next nonzero => rw [tmod_floor lhs nonzero]
 case rightShift =>
  rw [Int.shiftRight_eq_div_pow, Int.fdiv_eq_ediv_of_nonneg _ (Int.pow_nonneg (by decide)), Int.natCast_pow]
  grind
 all_goals grind

/-! ## Types of integers -/

lemma ClsForm.lit_of_beq {α : Type} {_ : BEq α} {lhs rhs : ClsForm α} (same : Form.cls lhs == .cls rhs) :
  lhs.lit == rhs.lit := by
 change (lhs == rhs) = true at same
 simp only [BEq.beq, sameBy, Bool.and_eq_true] at same
 exact same.2.2.2.2.1

namespace Ty

/-- An instance of `int` that is known to be one integer, and whether this is held as a big number. -/
structure IsInt (ty : Ty) (lit : Int × Bool) : Prop where
 form : ∃ data, ty.form = .cls data ∧ data.ref.isBuiltIn ∧ data.ref.name = "int" ∧ data.lit = some (.int lit.1 lit.2)
 inst : ty.isInst
 bare : ty.conds = []

/-- An integer as it is held: a big number from 2 ^ 53 on. -/
def held (val : Int) : Int × Bool := (val, 2 ^ 53 <= val.natAbs)

variable {ty mem other lhs rhs : Ty} {lit kept : Int × Bool}
namespace IsInt
variable (int : mem.IsInt lit)
include int
lemma facts : mem.lit? = some (.int lit.1 lit.2) ∧ mem.isObj ∧ litKey? mem = some (.int lit.1 lit.2) := by
 obtain ⟨data, form, builtIn, named, val⟩ := int.form
 simp [lit?, cls, isObj, isCls, litKey?, int.bare, int.inst, isNamed, isBuiltIn, form, val, builtIn, named]

lemma setLit (val : Int) : (mem.setLit (some (.ofInt val))).IsInt (held val) := by
 obtain ⟨data, form, builtIn, named, _⟩ := int.form
 have bare := int.bare
 have inst := int.inst
 have same : (9007199254740991 < val.natAbs) = (2 ^ 53 <= val.natAbs) := propext (by omega)
 constructor <;> simp only [Ty.setLit, withCls, form, setAliasUse, Lit.ofInt, same]
 all_goals split
 all_goals simp_all [conds, withProps, held]
 all_goals cases known : mem.props <;> simp_all

lemma unique (also : mem.IsInt kept) : lit = kept := by
 simpa [int.facts.1, Prod.ext_iff] using also.facts.1

lemma eq_of_identical {fuel : Nat} (deep : 63 <= fuel) (also : other.IsInt kept) (same : isIdenticalIn fuel mem other) :
  lit = kept := by
 obtain ⟨data, form, _, _, val⟩ := int.form
 obtain ⟨hit, shape, _, _, value⟩ := also.form
 obtain ⟨fuel, rfl⟩ := Nat.exists_eq_add_of_le' deep
 simp only [isIdenticalIn, form, shape, Bool.and_eq_true] at same
 have vals := ClsForm.lit_of_beq same.1.2
 rw [val, value] at vals
 have vals : (lit.1 == kept.1 && lit.2 == kept.2) = true := vals
 exact Prod.ext_iff.mpr (by simpa using vals)

end IsInt

/-- Integers as a kind of types. -/
def ints : Kind (Int × Bool) where
 isOne ty := ∃ lit, ty.IsInt lit
 has := IsInt
 isCls := fun ⟨_, int⟩ => (Bool.and_eq_true_iff.mp int.facts.2.1).2
 one int := ⟨_, int⟩
 identical {_ lhs rhs val} deep left right same := by
  obtain ⟨lit, int⟩ := left
  obtain ⟨kept, also⟩ := right
  obtain rfl := int.eq_of_identical deep also same
  exact ⟨fun hit => int.unique hit ▸ also, fun hit => also.unique hit ▸ int⟩
 add {mems added} elides each is := by
  obtain ⟨lit, int⟩ := is
  have alike : (mems.filterMap fun mem => if mem.isObj == added.isObj then
    (litKey? mem).filter (LitKey.int lit.1 lit.2).sameKind else none) = mems.filterMap litKey? :=
   List.filterMap_congr fun mem member => by
    obtain ⟨_, here⟩ := each mem member
    simp [here.facts, int.facts, LitKey.sameKind]
  simp only [addMem, int.facts.2.2, alike]
  split
  · next empty =>
   cases mems with
   | nil => exact .inl rfl
   | cons mem _ =>
    obtain ⟨_, here⟩ := each mem (by simp)
    simp [here.facts.2.2] at empty
  · split
    · next hit =>
     obtain ⟨mem, member, same⟩ := List.mem_filterMap.mp (List.contains_iff_mem.mp hit)
     obtain ⟨kept, here⟩ := each mem member
     obtain rfl : kept = lit := by simpa [here.facts.2.2, Prod.ext_iff] using same
     exact .inr ⟨rfl, fun val has => ⟨mem, member, int.unique has ▸ here⟩⟩
    · exact .inl rfl

lemma ints_plain (is : ints.Is ty) : ty.litClsName? = some "int" ∧ ty.hasConds = false := by
 have all : ∀ mem ∈ ty.subtys, mem.isLitTy ∧ mem.isBuiltIn [] ∧ mem.clsName = "int" ∧ mem.ownConds = [] := by
  intro mem member
  obtain ⟨_, int⟩ := is.each mem member
  obtain ⟨_, form, builtIn, named, val⟩ := int.form
  simp [isLitTy, int.inst, int.bare, ownConds, hasLit, cls, form, val, isBuiltIn, builtIn, clsName, named]
 have some := is.some
 unfold litClsName? hasConds
 cases hit : ty.subtys <;> simp_all

/-- What a type of integers becomes when each is changed. -/
lemma holds_setLit {op : Op} {change : Lit Ty -> Lit Ty} (is : ints.Is ty)
  (acts : ∀ val, ints.Holds ty val -> change (.int val.1 val.2) = .ofInt (op.onInt val.1)) :
  ints.Is (ty.map fun mem => mem.setLit (mem.lit?.map change)) ∧ ∀ lit,
   ints.Holds (ty.map fun mem => mem.setLit (mem.lit?.map change)) lit ↔
    ∃ val, ints.Holds ty val ∧ lit = held (op.onInt val.1) := by
 have made mem (member : mem ∈ ty.subtys) : ∃ val, IsInt mem val ∧
   (mem.setLit (mem.lit?.map change)).IsInt (held (op.onInt val.1)) := by
  obtain ⟨val, int⟩ := is.each mem member
  rw [int.facts.1, Option.map_some, acts val ⟨mem, member, int⟩]
  exact ⟨val, int, int.setLit _⟩
 have ones mem (member : mem ∈ ty.subtys) : ints.isOne (mem.setLit (mem.lit?.map change)) :=
  ⟨_, (made mem member).choose_spec.2⟩
 have each : ∀ mem ∈ ty.subtys, ∀ new ∈ some (mem.setLit (mem.lit?.map change)), ints.Is new := by
  grind [Kind.is_one]
 obtain ⟨holds, joins⟩ := Kind.holds_map is each
 obtain ⟨mem, member⟩ := List.exists_mem_of_ne_nil _ is.some
 refine ⟨joins ⟨mem, member, rfl⟩, fun lit => (holds lit).trans ⟨?_, ?_⟩⟩
 · rintro ⟨mem, member, _, ⟨⟩, has⟩
   obtain ⟨val, int, new⟩ := made mem member
   exact ⟨val, ⟨mem, member, int⟩, IsInt.unique ((Kind.holds_one (ones mem member)).mp has) new⟩
 · rintro ⟨val, ⟨mem, member, int⟩, rfl⟩
   obtain ⟨_, also, new⟩ := made mem member
   exact ⟨mem, member, _, rfl, (Kind.holds_one (ones mem member)).mpr (int.unique also ▸ new)⟩

/-- An operator on a type of integers gives a type of exactly its values; an inversion wraps those that are not big. -/
theorem litUnary?_ints {op : Op} (is : ints.Is ty) (few : ty.memCount < maxLitResults)
  (known : op ∈ [Op.add, .subtract, .bitwiseInvert]) (each : ∀ val, ints.Holds ty val -> val = held val.1 ∧
   (op = .bitwiseInvert -> -2 ^ 31 <= val.1 ∧ val.1 < 2 ^ 31 ∨ val.1 < -2 ^ 53 ∨ 2 ^ 53 <= val.1)) :
  ∃ new, litUnary? op ty = some new ∧ ints.Is new ∧ ∀ lit, ints.Holds new lit ↔
   ∃ val, ints.Holds ty val ∧ lit = held (op.onInt val.1) := by
 have small := Nat.not_le.mpr few
 simp only [List.mem_cons, List.not_mem_nil, or_false] at known
 rcases known with rfl | rfl | rfl
 · exact ⟨ty, by simp [litUnary?, ints_plain is, small], is, by grind [Op.onInt]⟩
 all_goals
  refine ⟨_, by simp [litUnary?, ints_plain is, small]; rfl, holds_setLit is fun ⟨val, isBig⟩ has => ?_⟩
  obtain ⟨same, fits⟩ := each _ has
  simp only [held, Prod.mk.injEq, true_and] at same fits
  simp only [Lit.negate, Lit.invert, Lit.ofInt, Op.onInt, Lit.int.injEq, same, Int.bmod]
  grind

theorem litUnary?_ints_big : ∃ new, litUnary? .bitwiseInvert (ofInt (2 ^ 53) true) = some new ∧
  ints.Holds new (-2 ^ 53 - 1, true) := by
 have int : (ofInt (2 ^ 53) true).IsInt (2 ^ 53, true) := ⟨⟨_, rfl, rfl, rfl, rfl⟩, rfl, rfl⟩
 have one : ints.isOne (ofInt (2 ^ 53) true) := ⟨_, int⟩
 have has val : ints.Holds (ofInt (2 ^ 53) true) val ↔ IsInt _ val := Kind.holds_one one
 obtain ⟨new, gives, _, holds⟩ := litUnary?_ints (Kind.is_one one) (by decide) (show Op.bitwiseInvert ∈ _ by decide)
  fun val inside => by
   obtain rfl := int.unique ((has val).mp inside)
   decide
 exact ⟨new, gives, (holds _).mpr ⟨_, (has _).mpr int, rfl⟩⟩

/-- Bits behind the 32nd are lost. -/
theorem litUnary?_wraps : litUnary? .bitwiseInvert (ofInt (2 ^ 32) false) = some (ofInt (-1) false) := rfl

/-- An operator on types of integers gives a type of exactly its values, each a big number only if it must be, and
none exactly if it is undefined for some of them. -/
theorem litBinary?_ints {op : Op} (left : ints.Is lhs) (right : ints.Is rhs) (known : Lit.isArithmetic op)
  (few : lhs.memCount * rhs.memCount < maxLitResults) :
  (litBinary? op lhs rhs none = none ↔ ∃ val, ints.Holds rhs val ∧ op.isUndefined val.1) ∧
  ∀ ty, litBinary? op lhs rhs none = some ty -> ints.Is ty ∧ ∀ lit, ints.Holds ty lit ↔
   ∃ a b, ints.Holds lhs a ∧ ints.Holds rhs b ∧ lit = held (op.onInts a.1 b.1) := by
 have opens : litBinary? op lhs rhs none = lhs.pairs? rhs (litArithmetic? none op) := by
  simp [litBinary?, ints_plain left, ints_plain right, Nat.not_le.mpr few, known]
 have joins {mem other a b} (int : IsInt mem a) (also : IsInt other b) : litArithmetic? none op mem other =
   if op.isUndefined b.1 then none else some (mem.setLit (some (.ofInt (op.onInts a.1 b.1)))) := by
  cases undefined : op.isUndefined b.1 <;>
   simp [litArithmetic?, int.facts, also.facts, Lit.integer?, Lit.arithmetic?_eq known, undefined]
 have one : ∀ mem ∈ lhs.subtys, ∃ lit, IsInt mem lit := left.each
 have other : ∀ mem ∈ rhs.subtys, ∃ lit, IsInt mem lit := right.each
 have ones : ∀ mem ∈ lhs.subtys, ∀ other ∈ rhs.subtys, ∀ new ∈ litArithmetic? none op mem other, ∃ lit, IsInt new lit := by
  grind [IsInt.setLit]
 obtain ⟨fails, holds⟩ := Kind.holds_pairs left right ones
 obtain ⟨mem, member⟩ := List.exists_mem_of_ne_nil _ left.some
 simp only [opens, Kind.Holds, show ints.has = IsInt from rfl] at holds ⊢
 constructor
 · rw [fails]
   grind
 · intro ty gives
   refine ⟨(holds ty gives).1, fun lit => ((holds ty gives).2 lit).trans ⟨?_, ?_⟩⟩
   · rintro ⟨mem, member, other, inside, new, made, has⟩
     obtain ⟨a, int⟩ := left.each mem member
     obtain ⟨b, also⟩ := right.each other inside
     obtain ⟨_, rfl⟩ : _ ∧ mem.setLit _ = new := by simpa [joins int also] using made
     exact ⟨a, b, ⟨mem, member, int⟩, ⟨other, inside, also⟩, has.unique (int.setLit _)⟩
   · rintro ⟨a, b, ⟨mem, member, int⟩, ⟨other, inside, also⟩, rfl⟩
     have made := int.setLit (op.onInts a.1 b.1)
     grind

theorem litBinary?_ints_seven : ∃ ty,
  litBinary? .floorDivide (ofMems [ofInt (-7) false, ofInt 7 false] []) (ofInt 2 false) none = some ty ∧
   ints.Holds ty (-4, false) ∧ ints.Holds ty (3, false) := by
 have int (val : Int) : (ofInt val false).IsInt (val, false) := ⟨⟨_, rfl, rfl, rfl, rfl⟩, rfl, rfl⟩
 have left : ints.Is (ofMems [ofInt (-7) false, ofInt 7 false] []) :=
  ⟨List.cons_ne_nil _ _, by simpa [subtys, ofMems] using ⟨⟨_, int (-7)⟩, _, int 7⟩⟩
 have right : ints.Is (ofInt 2 false) := Kind.is_one ⟨_, int 2⟩
 have divides := litBinary?_ints left right (show Lit.isArithmetic .floorDivide from rfl) (by decide)
 have two : ints.Holds (ofInt 2 false) (2, false) := ⟨_, List.mem_singleton.mpr rfl, int 2⟩
 exact ⟨_, rfl, ((divides.2 _ rfl).2 _).mpr ⟨_, _, ⟨_, List.mem_cons_self, int (-7)⟩, two, rfl⟩,
  ((divides.2 _ rfl).2 _).mpr ⟨_, _, ⟨_, List.mem_cons_of_mem _ List.mem_cons_self, int 7⟩, two, rfl⟩⟩

end Ty
end TypeChecker
