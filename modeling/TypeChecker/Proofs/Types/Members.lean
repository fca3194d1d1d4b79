import TypeChecker.Types.Query
import Mathlib.Data.List.Basic

/-! What joining types keeps: kinds of types, and what the members of a union stand for. -/

namespace TypeChecker

lemma exists_congr_of_beq {α : Type} {_ : BEq α} {lefts rights : List α} {test : α -> Prop} (same : lefts == rights)
  (congr : ∀ lhs ∈ lefts, ∀ rhs ∈ rights, lhs == rhs -> (test lhs ↔ test rhs)) :
  (∃ lhs ∈ lefts, test lhs) ↔ ∃ rhs ∈ rights, test rhs := by
 induction lefts generalizing rights with
 | nil => cases rights <;> simp_all
 | cons lhs lefts ih =>
  cases rights with
  | nil => cases same
  | cons rhs rights =>
   have ⟨first, rest⟩ := Bool.and_eq_true_iff.mp same
   have := ih rest
   grind

namespace Ty

/-- Types of one kind and what each stands for: joining drops one only beside others that stand for the same. -/
structure Kind (α : Type) where
 isOne : Ty -> Prop
 has : Ty -> α -> Prop
 isCls {mem : Ty} : isOne mem -> mem.isCls
 one {mem : Ty} {val : α} : has mem val -> isOne mem
 identical {fuel : Nat} {lhs rhs : Ty} {val : α} : 63 <= fuel -> isOne lhs -> isOne rhs ->
  isIdenticalIn fuel lhs rhs -> (has lhs val ↔ has rhs val)
 add {mems : Tys} {added : Ty} (elides : Bool) : (∀ mem ∈ mems, isOne mem) -> isOne added ->
  addMem elides mems added = mems ++ [added] ∨
   addMem elides mems added = mems ∧ ∀ val, has added val -> ∃ mem ∈ mems, has mem val

/-- An integer of known value. -/
def ofInt (val : Int) (isBig : Bool) : Ty :=
 {form := .cls {ref := {(default : ClsRef) with name := "int", isBuiltIn := true}, lit := some (.int val isBig)}, isInsta := false}

variable {ty mem other : Ty} {mems others tys : Tys}
lemma subtys_of_single (single : ¬ty.isUnion) : ty.subtys = [ty] := by
 unfold isUnion at single
 unfold subtys
 grind

lemma subtys_addAliasSrc (src : Ty) : (ty.addAliasSrc src).subtys = ty.subtys := by
 unfold addAliasSrc
 split
 · next form => simp [subtys, form]
 · rfl

namespace Kind
variable {α : Type} (kind : Kind α)
structure Is (ty : Ty) : Prop where
 some : ty.subtys ≠ []
 each : ∀ mem ∈ ty.subtys, kind.isOne mem

def Holds (ty : Ty) (val : α) : Prop := ∃ mem ∈ ty.subtys, kind.has mem val

variable {kind} {val : α}
lemma subtys_eq (one : kind.isOne mem) : mem.subtys = [mem] := by
 have cls := kind.isCls one
 unfold Ty.isCls at cls
 unfold subtys
 grind

lemma is_one (one : kind.isOne mem) : kind.Is mem := by
 constructor <;> simp [subtys_eq one, one]

lemma holds_one (one : kind.isOne mem) : kind.Holds mem val ↔ kind.has mem val := by
 simp [Holds, subtys_eq one]

lemma not_holds_never : ¬kind.Holds .never val := by
 rintro ⟨mem, member, has⟩
 obtain rfl := List.mem_singleton.mp member
 cases kind.isCls (kind.one has)

lemma isNever_eq (is : kind.Is ty) : ty.isNever = false := by
 cases form : ty.form with
 | never =>
  have cls := kind.isCls (is.each ty (by simp [subtys, form]))
  simp [Ty.isCls, form] at cls
 | _ => simp [Ty.isNever, form]

lemma holds_identical (is : kind.Is ty) (also : kind.Is other) (same : ty.isIdentical other) :
  kind.Holds ty val ↔ kind.Holds other val := by
 have whole := same
 simp only [isIdentical, isIdenticalIn, Bool.and_eq_true] at same
 have alike := same.1.2
 have left := is.each
 have right := also.each
 unfold Holds
 cases shape : ty.form <;> cases form : other.form
 case union.union =>
  simp only [subtys, shape, form] at alike left right ⊢
  exact exists_congr_of_beq (Bool.and_eq_true_iff.mp alike).1 fun mem member hit inside same =>
   kind.identical (by decide) (left mem member) (right hit inside) same
 all_goals simp only [subtys, shape, form, List.mem_singleton, forall_eq, exists_eq_left] at alike left right ⊢
 all_goals first
  | exact kind.identical (by decide) left right whole
  | cases alike

/-- What joining types one after the other keeps. -/
lemma foldl_addIn (elides : Bool) (some : mems ≠ []) (each : ∀ mem ∈ mems ++ others, kind.isOne mem) :
  ∃ joined, others.foldl (addIn elides none) (mems, false) = (joined, false) ∧ joined ≠ [] ∧
   (∀ mem ∈ joined, mem ∈ mems ++ others) ∧
   ∀ mem ∈ mems ++ others, ∀ val, kind.has mem val -> ∃ hit ∈ joined, kind.has hit val := by
 induction others generalizing mems with
 | nil => exact ⟨mems, rfl, some, by simp, fun mem member val has => ⟨mem, by simpa using member, has⟩⟩
 | cons first rest ih =>
  have step : addIn elides none (mems, false) first = (addMem elides mems first, false) := by
   simp [addIn, some]
  have before : ∀ mem ∈ mems, kind.isOne mem := fun mem member => each mem (by simp [member])
  rw [List.foldl_cons, step]
  rcases kind.add elides before (each first (by simp)) with grown | ⟨same, known⟩
  · rw [grown]
    simpa using ih (List.append_ne_nil_of_right_ne_nil mems (List.cons_ne_nil first [])) (by simpa using each)
  · rw [same]
    obtain ⟨joined, runs, found, sound, complete⟩ := ih some fun mem member => each mem (by grind)
    exact ⟨joined, runs, found, by grind, by grind⟩

/-- A union stands for what its parts stand for. -/
lemma holds_combine (each : ∀ ty ∈ tys, kind.Is ty) :
  (∀ val, kind.Holds (combine tys) val ↔ ∃ ty ∈ tys, kind.Holds ty val) ∧ (tys ≠ [] -> kind.Is (combine tys)) := by
 have kept : tys.filter (!·.isNever) = tys := by simpa using fun ty inside => isNever_eq (each ty inside)
 rw [combine, kept]
 cases tys with
 | nil => simpa using fun _ => not_holds_never
 | cons first rest =>
  have is := each first (by simp)
  dsimp only
  split
  · next same =>
   have all : ∀ ty ∈ first :: rest, ∀ val, kind.Holds ty val -> kind.Holds first val := by
    intro ty inside val holds
    rcases List.mem_cons.mp inside with rfl | inside
    · exact holds
    · exact (holds_identical is (each ty (by simp [inside])) (List.all_eq_true.mp same ty inside)).mpr holds
   exact ⟨by grind, fun _ => is⟩
  · generalize sorts : ((first :: rest).flatMap subtys).mergeSort _ = expanded
    have perm : ∀ mem, mem ∈ expanded ↔ ∃ ty ∈ first :: rest, mem ∈ ty.subtys := by simp [<- sorts]
    have ones : ∀ mem ∈ expanded, kind.isOne mem := fun mem member => by
     obtain ⟨ty, inside, within⟩ := (perm mem).mp member
     exact (each ty inside).each mem within
    cases expanded with
    | nil =>
     obtain ⟨mem, member⟩ := List.exists_mem_of_ne_nil _ is.some
     cases (perm mem).mpr ⟨first, by simp, member⟩
    | cons least more =>
     obtain ⟨joined, runs, some, sound, complete⟩ := foldl_addIn true (List.cons_ne_nil least []) ones
     have holds val : (∃ ty ∈ first :: rest, kind.Holds ty val) ↔ ∃ mem ∈ joined, kind.has mem val := by
      unfold Holds
      grind
     simp only [holds]
     rw [List.foldl_cons, show addIn _ none ([], false) least = ([least], false) from rfl, Bool.not_false, runs]
     split
     · next eq => cases eq
     · next eq => cases eq; exact absurd rfl some
     · next only _ _ eq =>
       cases eq
       have one := ones only (sound only (by simp))
       exact ⟨by simp [holds_one one], fun _ => is_one one⟩
     · next eq =>
       cases eq
       exact ⟨fun _ => Iff.rfl, fun _ => ⟨some, fun mem member => ones mem (sound mem member)⟩⟩

/-- A type whose members are changed stands for what these become. -/
lemma holds_map {change : Ty -> Ty?} (is : kind.Is ty) (each : ∀ mem ∈ ty.subtys, ∀ new ∈ change mem, kind.Is new) :
  (∀ val, kind.Holds (ty.map change) val ↔ ∃ mem ∈ ty.subtys, ∃ new ∈ change mem, kind.Holds new val) ∧
   ((∃ mem ∈ ty.subtys, (change mem).isSome) -> kind.Is (ty.map change)) := by
 unfold Ty.map
 split
 · unfold remapped
   split
   · next same =>
    have same : ∀ mem ∈ ty.subtys, ∃ new ∈ change mem, mem.isIdentical new := by
     rw [<- List.map_prod_left_eq_zip] at same
     simpa [Option.any_eq_true] using same
    refine ⟨fun val => exists_congr fun mem => and_congr_right fun member => ?_, fun _ => is⟩
    have one := is.each mem member
    obtain ⟨new, becomes, same⟩ := same mem member
    rw [<- holds_one one, holds_identical (is_one one) (each mem member new becomes) same]
    simp [Option.mem_def.mp becomes]
   · have news (new : Ty) : new ∈ (ty.subtys.map change).filterMap id ↔ ∃ mem ∈ ty.subtys, new ∈ change mem := by simp
     have all : ∀ new ∈ (ty.subtys.map change).filterMap id, kind.Is new := by grind
     obtain ⟨holds, joins⟩ := holds_combine all
     dsimp only
     rw [if_neg (by decide)]
     unfold Holds at holds ⊢
     simp only [subtys_addAliasSrc]
     refine ⟨fun val => (holds val).trans (by grind), ?_⟩
     rintro ⟨mem, member, made⟩
     obtain ⟨some, ones⟩ := joins (List.ne_nil_of_mem ((news _).mpr ⟨mem, member, Option.get_mem made⟩))
     rw [<- subtys_addAliasSrc ty] at some ones
     exact ⟨some, ones⟩
 · next single =>
  rw [subtys_of_single single] at each ⊢
  cases becomes : change ty with
  | none => simpa [becomes] using fun _ => not_holds_never
  | some new => simpa [becomes] using each ty (by simp) new becomes

/-- What joining the members of two types gives, if each pair has a result. -/
lemma holds_pairs {join : Ty -> Ty -> Ty?} (left : kind.Is ty) (right : kind.Is other)
  (each : ∀ mem ∈ ty.subtys, ∀ also ∈ other.subtys, ∀ new ∈ join mem also, kind.isOne new) :
  (pairs? ty other join = none ↔ ∃ mem ∈ ty.subtys, ∃ also ∈ other.subtys, join mem also = none) ∧
   ∀ new, pairs? ty other join = some new -> kind.Is new ∧ ∀ val, kind.Holds new val ↔
    ∃ mem ∈ ty.subtys, ∃ also ∈ other.subtys, ∃ new ∈ join mem also, kind.has new val := by
 unfold pairs?
 split
 · next all =>
  simp only [List.all_eq_true] at all
  have inner mem (member : mem ∈ ty.subtys) : kind.Is (other.map (join mem)) ∧ ∀ val,
    kind.Holds (other.map (join mem)) val ↔ ∃ also ∈ other.subtys, ∃ new ∈ join mem also, kind.has new val := by
   have ones also inside new (made : new ∈ join mem also) := each mem member also inside new made
   obtain ⟨holds, joins⟩ := holds_map right fun also inside new made => is_one (ones also inside new made)
   obtain ⟨also, inside⟩ := List.exists_mem_of_ne_nil _ right.some
   refine ⟨joins ⟨also, inside, all mem member also inside⟩, fun val => (holds val).trans ?_⟩
   grind [holds_one]
  have whole : ∀ mem ∈ ty.subtys, ∀ new ∈ some (other.map (join mem)), kind.Is new := by grind
  obtain ⟨holds, joins⟩ := holds_map left whole
  obtain ⟨mem, member⟩ := List.exists_mem_of_ne_nil _ left.some
  refine ⟨by grind, fun new made => ?_⟩
  cases made
  exact ⟨joins ⟨mem, member, rfl⟩, fun val => (holds val).trans (by grind)⟩
 · next some => simpa using some

end Kind
end Ty
end TypeChecker
