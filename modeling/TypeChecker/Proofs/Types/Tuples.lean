import TypeChecker.Types.Tuple
import Mathlib.Data.List.Basic

/-! The tuples that a tuple type stands for. A slice of the type stands for the slices of its tuples, and
a test for a length writes out the entries. -/

namespace TypeChecker.Tup
variable {α : Type} (holds : Ty -> α -> Prop)
/-- Values for entries: one for each, any number for one of any length. -/
def Has : List TyTupArg -> List α -> Prop
 | [], vals => vals = []
 | arg :: args, vals => ∃ own rest, vals = own ++ rest ∧ (∀ val ∈ own, holds arg.ty val) ∧
  (arg.isUnb ∨ own.length = 1) ∧ Has args rest

variable {holds} {args more : List TyTupArg} {vals own rest : List α}
lemma has_append : Has holds (args ++ more) vals ↔ ∃ own rest, vals = own ++ rest ∧ Has holds args own ∧ Has holds more rest := by
 induction args generalizing vals with
 | nil => simp [Has]
 | cons arg args ih =>
  simp only [List.cons_append, Has, ih]
  constructor
  · rintro ⟨first, _, rfl, each, fits, own, rest, rfl, has, also⟩
    exact ⟨first ++ own, rest, by simp, ⟨first, own, rfl, each, fits, has⟩, also⟩
  · rintro ⟨_, rest, rfl, ⟨first, own, rfl, each, fits, has⟩, also⟩
    exact ⟨first, own ++ rest, by simp, each, fits, own, rest, rfl, has, also⟩

lemma Has.length_eq (has : Has holds args vals) (fixed : args.countP (·.isUnb) = 0) : vals.length = args.length := by
 induction args generalizing vals with
 | nil => simp_all [Has]
 | cons arg args ih =>
  obtain ⟨own, rest, rfl, _, fits, has⟩ := has
  simp only [List.countP_cons, Nat.add_eq_zero_iff, ite_eq_right_iff] at fixed
  have := ih has fixed.1
  simp_all
  omega

/-- An instance of `tuple` with known entries, at most one of them of any length. -/
structure IsTuple (ty : Ty) : Prop where
 obj : ty.isTupObj
 known : ty.tupArgs?.isSome
 single : ty.tupArgs.countP (·.isUnb) <= 1
 plain : ∀ arg ∈ ty.tupArgs, arg.ty.isTupVar = false

lemma IsTuple.specTup {tup : Ty} (is : IsTuple tup) (args : List TyTupArg) :
  (tup.specTup args).isTupObj ∧ (tup.specTup args).tupArgs?.isSome ∧ (tup.specTup args).tupArgs = args := by
 have obj := is.obj
 simp only [Ty.isTupObj, Ty.isObjOf, Ty.isObjIn, Ty.isBuiltIn, Bool.and_eq_true] at obj
 obtain ⟨inst, cls⟩ := obj
 cases form : tup.form <;> simp only [form, Bool.false_eq_true] at cls
 simpa [Ty.isTupObj, Ty.isObjOf, Ty.isObjIn, Ty.isBuiltIn, inst, Ty.specTup, Ty.spec, Ty.withCls, Ty.tupArgs, Ty.tupArgs?, Ty.cls,
  form] using cls

/-- The type of tuples with given entries. -/
def ofArgs (args : List TyTupArg) : Ty :=
 {form := .cls {ref := {(default : ClsRef) with name := "tuple", isBuiltIn := true}, tupArgs := args}, isInsta := false}

lemma isTuple_ofArgs (single : args.countP (·.isUnb) <= 1) (plain : ∀ arg ∈ args, arg.ty.isTupVar = false) :
  IsTuple (ofArgs args) := ⟨rfl, rfl, single, plain⟩

/-! ## Slices -/

/-- The place of a bound among values: a negative one counts from the end. -/
def place (val : Int) (size : Nat) : Nat := (if val < 0 then max (val + size) 0 else min val size).toNat

def cut (vals : List α) (start stop : Int?) : List α :=
 (vals.take (stop.elim vals.length (place · vals.length))).drop (start.elim 0 (place · vals.length))

variable (single : args.countP (·.isUnb) <= 1) (plain : ∀ arg ∈ args, arg.ty.isTupVar = false)
include single plain
/-- A bound of a type is the place of the bound in each of its tuples. -/
lemma place_eq {val : Int} {idx : Nat} (known : sliceBound args val = some idx)
  (left : Has holds (args.take idx) own) (right : Has holds (args.drop idx) rest) :
  place val (own ++ rest).length = own.length := by
 have whole : (args.take idx).countP (·.isUnb) + (args.drop idx).countP (·.isUnb) <= 1 := by
  rwa [<- List.countP_append, List.take_append_drop]
 have before := left.length_eq
 have behind := right.length_eq
 simp only [List.length_take, List.length_drop] at before behind
 unfold sliceBound at known
 simp only [place, List.length_append]
 cases unb : args.findIdx? fun arg => arg.isUnb || arg.ty.isTupVar with
 | none =>
  have none : args.countP (·.isUnb) = 0 := by
   have := List.findIdx?_eq_none_iff.mp unb
   simp_all
  rw [<- List.take_append_drop idx args, List.countP_append] at none
  grind
 | some place =>
  obtain ⟨inside, isUnb, first⟩ := List.findIdx?_eq_some_iff_getElem.mp unb
  simp [plain] at isUnb first
  by_cases above : place < idx
  · have here : 0 < (args.take idx).countP (·.isUnb) :=
     List.countP_pos_iff.mpr ⟨args[place], List.mem_take_iff_getElem.mpr ⟨place, by omega, rfl⟩, isUnb⟩
    grind
  · have none : (args.take idx).countP (·.isUnb) = 0 := by
     refine List.countP_eq_zero.mpr fun arg mem => ?_
     obtain ⟨place, below, rfl⟩ := List.mem_take_iff_getElem.mp mem
     simp [first place (by omega)]
    grind

omit single plain

/-- A slice of a tuple type stands for the slices of its tuples. -/
theorem sliced_has {tup ty : Ty} {start stop : Int?} (is : IsTuple tup) (slices : sliced tup start stop = some ty)
  (has : Has holds tup.tupArgs vals) : IsTuple ty ∧ Has holds ty.tupArgs (cut vals start stop) := by
 unfold sliced at slices
 have single := is.single
 have plain := is.plain
 generalize tup.tupArgs = args at *
 simp only [Option.bind_eq_bind, Option.bind_eq_some_iff, Option.map_eq_some_iff] at slices
 obtain ⟨first, starts, last, stops, part, slices, rfl⟩ := slices
 obtain ⟨order, rfl⟩ : first <= last ∧ part = (args.drop first).take (last - first) := by
  unfold slice at slices
  grind
 obtain ⟨count, rfl⟩ := Nat.exists_eq_add_of_le order
 rw [Nat.add_sub_cancel_left]
 have inner : ((args.drop first).take count).Sublist args := (List.take_sublist ..).trans (List.drop_sublist ..)
 have ⟨obj, known, same⟩ := is.specTup ((args.drop first).take count)
 rw [Ty.clsInst, if_pos (Bool.and_eq_true_iff.mp obj).1]
 refine ⟨⟨obj, known, ?_, ?_⟩, ?_⟩ <;> rw [same]
 · exact Nat.le_trans inner.countP_le single
 · exact fun arg mem => plain arg (inner.subset mem)
 rw [<- List.take_append_drop (first + count) args, List.take_add, List.append_assoc] at has
 obtain ⟨before, _, rfl, left, has⟩ := has_append.mp has
 obtain ⟨here, behind, rfl, mid, right⟩ := has_append.mp has
 have begins : start.elim 0 (place · (before ++ (here ++ behind)).length) = before.length := by
  cases start with
  | none =>
   cases starts
   simpa [Has, eq_comm] using left
  | some val =>
   refine place_eq single plain starts left ?_
   rw [<- List.take_append_drop count (args.drop first), List.drop_drop]
   exact has_append.mpr ⟨here, behind, rfl, mid, right⟩
 have ends : stop.elim (before ++ here ++ behind).length (place · (before ++ here ++ behind).length) = (before ++ here).length := by
  cases stop with
  | none =>
   have none : behind = [] := by simpa [<- Option.some.inj stops, Has] using right
   simp [none]
  | some val => exact place_eq single plain stops (List.take_add ▸ has_append.mpr ⟨before, here, rfl, left, mid⟩) right
 rw [List.append_assoc] at ends
 simp only [cut, begins, ends]
 simpa [List.take_append] using mid

theorem sliced_has_middle : ∃ tup ty, IsTuple tup ∧ sliced tup (some 1) (some (-1)) = some ty ∧
  Has (·.cat = ·) tup.tupArgs [1, 2, 2, 1] ∧ Has (·.cat = ·) ty.tupArgs (cut [1, 2, 2, 1] (some 1) (some (-1))) := by
 have is : IsTuple (ofArgs [{ty := .unk}, {ty := .any, isUnb := true}, {ty := .unk}]) :=
  isTuple_ofArgs (by decide) (by decide)
 have has : Has (·.cat = ·) (ofArgs [{ty := .unk}, {ty := .any, isUnb := true}, {ty := .unk}]).tupArgs [1, 2, 2, 1] :=
  ⟨[1], _, rfl, by decide, .inr rfl, [2, 2], _, rfl, by decide, .inl rfl, [1], [], rfl, by decide, .inr rfl, rfl⟩
 exact ⟨_, _, is, rfl, has, (sliced_has is rfl has).2⟩

/-! ## Lengths -/

/-- A test for equality writes out as many entries as it asks for. -/
theorem ofLength_length {tup : Ty} {length : Nat} (is : IsTuple tup) (unb : tup.tupArgs.any (·.isUnb))
  (fits : tup.tupArgs.length <= length + 1) :
  ∃ new, ofLength tup tup length false true = some new ∧ new.tupArgs.length = length := by
 have written (args : List TyTupArg) (count : Nat) : (args.flatMap fun arg =>
   if arg.isUnb then .replicate count {ty := arg.ty} else [arg]).length + args.countP (·.isUnb) =
    args.length + args.countP (·.isUnb) * count := by
  induction args with
  | nil => simp
  | cons arg args ih => cases isUnb : arg.isUnb <;> simp_all <;> grind
 have one : tup.tupArgs.countP (·.isUnb) = 1 := Nat.le_antisymm is.single (by simpa [List.countP_pos_iff] using unb)
 have size := written tup.tupArgs ((length : Int) - tup.tupArgs.length + 1).toNat
 have above : ¬(length : Int) - tup.tupArgs.length + 1 < 0 := by omega
 refine ⟨unroll tup ((length : Int) - tup.tupArgs.length + 1).toNat false, by simp [ofLength, unb, above], ?_⟩
 simp only [unroll, (is.specTup _).2.2, Bool.false_eq_true, if_false, List.append_nil]
 rw [one] at size
 exact Nat.add_right_cancel (size.trans (by omega))

theorem ofLength_length_hundred : ∃ tup new, ofLength tup tup 100 false true = some new ∧ new.tupArgs.length = 100 := by
 have is : IsTuple (ofArgs [{ty := .any, isUnb := true}]) := isTuple_ofArgs (by decide) (by decide)
 exact ⟨_, ofLength_length is rfl (by decide)⟩

end TypeChecker.Tup
