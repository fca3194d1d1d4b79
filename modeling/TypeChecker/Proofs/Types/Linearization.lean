import TypeChecker.Types.Signature
import Mathlib.Data.List.Nodup

/-! Method resolution orders: merging the orders of the bases of a class gives their C3 order where there is
one, and names every ancestor once in any case. -/

namespace TypeChecker.Linearization
section Rule
variable {κ : Type} [DecidableEq κ]
/-- Whether a class stands behind the head of no list. -/
def isGood (lists : List (List κ)) (cls : κ) : Bool := lists.all (cls ∉ ·.tail)

/-- The C3 rule: the first of the heads that is good comes next and is struck out everywhere. -/
@[mk_iff]
inductive Merged : List (List κ) -> List κ -> Prop
 | done {lists : List (List κ)} (empty : lists.flatten = []) : Merged lists []
 | next {lists : List (List κ)} {head : κ} {order : List κ}
    (good : lists.findSome? (·.head?.filter (isGood lists)) = some head)
    (rest : Merged (lists.map (List.filter (· ≠ head))) order) : Merged lists (head :: order)

end Rule

/-- What tells a class from others. -/
def identity (cls : Ty) : Bool × Bool × Nat × Nat × String :=
 (cls.cls.isTdictPartial, cls.isInst, cls.depth, cls.cls.ref.srcId, cls.cls.ref.fullName)

abbrev identities (lists : List Tys) := lists.map (List.map identity)

/-- Lists of classes, none of which names a class twice, in which a number stands for one declaration. -/
structure Plain (lists : List Tys) : Prop where
 isCls : ∀ cls ∈ lists.flatten, cls.isClsObj
 nodup : ∀ list ∈ identities lists, list.Nodup
 refs : ∀ lhs ∈ lists.flatten, ∀ rhs ∈ lists.flatten, lhs.cls.ref.id = rhs.cls.ref.id ->
  lhs.cls.ref.srcId = rhs.cls.ref.srcId ∧ lhs.cls.ref.fullName = rhs.cls.ref.fullName

/-- What merging lists gives: their C3 order if there is one, and each class once in any case. -/
structure Merges (lists : List Tys) (res : Tys × Bool) : Prop where
 exact : ∀ order, Merged (identities lists) order ↔ res.2 ∧ order = res.1.map identity
 nodup : (res.1.map identity).Nodup
 inside : ∀ cls ∈ res.1, cls ∈ lists.flatten
 whole : ∀ cls ∈ lists.flatten, identity cls ∈ res.1.map identity

variable {lists : List Tys} {head : Ty} {idx : Nat}
lemma mem_of_nextHead? (hit : nextHead? Ty.sameCls Ty.isClsObj lists = some (idx, head)) : head ∈ lists.flatten := by
 obtain ⟨⟨list, place⟩, mem, eq⟩ := List.exists_of_findSome?_eq_some hit
 cases list with
 | nil => cases eq
 | cons first tail =>
  obtain rfl : first = head := by grind
  exact List.mem_flatten_of_mem (List.fst_mem_of_mem_zipIdx mem) (by simp)

namespace Plain
variable (plain : Plain lists)
include plain
lemma same {lhs rhs : Ty} (left : lhs ∈ lists.flatten) (right : rhs ∈ lists.flatten) :
  lhs.sameCls rhs = decide (identity lhs = identity rhs) := by
 have refs := plain.refs _ left _ right
 have leftCls := plain.isCls _ left
 have rightCls := plain.isCls _ right
 obtain ⟨leftForm⟩ := lhs
 obtain ⟨rightForm⟩ := rhs
 cases leftForm <;> cases rightForm <;>
  simp_all [Ty.isClsObj, Ty.isCls, Ty.sameCls, Ty.isOfSameCls, identity, Ty.cls]
 grind

lemma isInTail (within : head ∈ lists.flatten) :
  isInTail Ty.sameCls head lists = !isGood (identities lists) (identity head) := by
 have alike (list : Tys) (mem : list ∈ lists) :
   ((list.drop 1).any head.sameCls && !list.head?.any head.sameCls) =
    decide (identity head ∈ (list.map identity).tail) := by
  have nodup := plain.nodup _ (List.mem_map_of_mem mem)
  have same (other : Ty) (inside : other ∈ list) := plain.same within (List.mem_flatten_of_mem mem inside)
  cases list with
  | nil => rfl
  | cons first tail =>
   have eq := same first (by simp)
   grind
 rw [Linearization.isInTail, isGood, List.all_map, List.not_all_eq_any_not]
 grind

lemma heads : (nextHead? Ty.sameCls Ty.isClsObj lists).map (identity ·.2) =
  (identities lists).findSome? (·.head?.filter (isGood (identities lists))) := by
 -- The places of the lists are read with them, but they do not matter here.
 rw [nextHead?, List.map_findSome?, <- List.head?_filterMap, List.filterMap_congr
  (g := (fun list => (list.map identity).head?.filter (isGood (identities lists))) ∘ Prod.fst), <- List.filterMap_map,
  List.zipIdx_map_fst, List.head?_filterMap, List.findSome?_map]
 · rfl
 intro ⟨list, place⟩ mem
 cases list with
 | nil => rfl
 | cons head tail =>
  have within := List.mem_flatten_of_mem (List.fst_mem_of_mem_zipIdx mem) (List.mem_cons_self (a := head))
  simp [plain.isCls _ within, plain.isInTail within]
  grind

lemma take (within : head ∈ lists.flatten) :
  take Ty.sameCls Ty.isClsObj lists idx head = lists.map (List.filter (identity · ≠ identity head)) := by
 rw [Linearization.take, if_pos (plain.isCls _ within)]
 refine List.map_congr_left fun list mem => List.filter_congr fun cls inside => ?_
 have whole := List.mem_flatten_of_mem mem inside
 rw [plain.isCls _ whole, plain.same whole within]
 simp

lemma filter (test : Ty -> Bool) : Plain (lists.map (List.filter test)) := by
 have inside {cls : Ty} (mem : cls ∈ (lists.map (List.filter test)).flatten) : cls ∈ lists.flatten := by
  rw [<- List.filter_flatten] at mem
  exact List.mem_of_mem_filter mem
 refine ⟨fun cls mem => plain.isCls _ (inside mem), fun list mem => ?_, fun lhs left rhs right =>
  plain.refs _ (inside left) _ (inside right)⟩
 simp only [identities, List.map_map, List.mem_map, Function.comp] at mem
 obtain ⟨whole, hit, rfl⟩ := mem
 exact (plain.nodup _ (List.mem_map_of_mem hit)).sublist (List.filter_sublist.map identity)

end Plain

/-- A class that is listed comes before the order of what is left. -/
lemma Merges.cons {res : Tys × Bool} {isValid : Bool} (within : head ∈ lists.flatten)
  (rest : Merges (lists.map (List.filter (identity · ≠ identity head))) res)
  (exact : ∀ order, Merged (identities lists) order ↔ isValid ∧ order = (head :: res.1).map identity) :
  Merges lists (head :: res.1, isValid) := by
 obtain ⟨-, nodup, inside, whole⟩ := rest
 rw [<- List.filter_flatten] at inside whole
 refine ⟨exact, ?_, ?_, ?_⟩
 · grind
 · grind
 · grind

lemma Plain.merges (plain : Plain lists) (fuel : Nat) (enough : lists.flatten.length < fuel) :
  Merges lists (mergeIn Ty.sameCls Ty.isClsObj fuel lists) := by
 induction fuel generalizing lists with
 | zero => omega
 | succ fuel ih =>
  have step (idx : Nat) {head : Ty} (within : head ∈ lists.flatten) :
    Merges (lists.map (List.filter (identity · ≠ identity head)))
     (mergeIn Ty.sameCls Ty.isClsObj fuel (Linearization.take Ty.sameCls Ty.isClsObj lists idx head)) := by
   rw [plain.take within]
   refine ih (plain.filter _) ?_
   rw [<- List.filter_flatten]
   have shorter : (lists.flatten.filter (identity · ≠ identity head)).length < lists.flatten.length :=
    List.length_filter_lt_length_iff_exists.2 ⟨head, within, by simp⟩
   omega
  have heads := plain.heads
  have flat : (identities lists).flatten = [] ↔ lists.flatten = [] := by rw [<- List.map_flatten, List.map_eq_nil_iff]
  rw [mergeIn]
  split
  next first tail firstIdx hit =>
   have within : first ∈ lists.flatten :=
    List.mem_flatten_of_mem (List.fst_mem_of_mem_zipIdx (List.mem_of_find?_eq_some hit)) (by simp)
   rcases next : nextHead? Ty.sameCls Ty.isClsObj lists with _ | ⟨idx, head⟩
   · refine (step firstIdx within).cons within fun order => ?_
     rw [next, Option.map_none] at heads
     rw [merged_iff, <- heads, flat]
     grind
   · have within := mem_of_nextHead? next
     have rest := step idx within
     refine rest.cons within fun order => ?_
     have struck : identities (lists.map (List.filter (identity · ≠ identity head))) =
       (identities lists).map (List.filter (· ≠ identity head)) := by
      simp [List.filter_map, Function.comp_def]
     have exact := struck ▸ rest.exact
     rw [next, Option.map_some] at heads
     rw [merged_iff, <- heads, flat]
     grind
  next none =>
   have empty : lists.flatten = [] := by
    rcases hit : lists.zipIdx.find? (!·.1.isEmpty) with _ | ⟨_ | ⟨first, tail⟩, idx⟩
    · refine List.flatten_eq_nil_iff.2 fun list mem => ?_
      rw [<- List.zipIdx_map_fst 0 lists] at mem
      obtain ⟨entry, inside, rfl⟩ := List.mem_map.1 mem
      simpa using List.find?_eq_none.1 hit entry inside
    · simpa using List.find?_some hit
    · exact (none first tail idx hit).elim
   have noHead : nextHead? Ty.sameCls Ty.isClsObj lists = Option.none :=
    Option.eq_none_iff_forall_ne_some.2 fun _ hit => by simpa [empty] using mem_of_nextHead? hit
   rw [noHead, Option.map_none] at heads
   refine ⟨fun order => ?_, by simp, by simp, by simp [empty]⟩
   rw [merged_iff, <- heads, flat]
   grind

/-- The orders that are merged for a class: those of its bases, and that of the bases themselves. -/
def orders (u : Univ) (ty : Ty) : List Tys := (u.info ty).bases.map u.mro ++ [(u.info ty).bases]

/-- A class as it is declared, with bases that are distinct and not generic and have their orders. -/
structure Ready (u : Univ) (ty : Ty) : Prop where
 declared : ty.isCls ∧ ty.tyArgs? = none ∧ ty.tupArgs? = none
 bases : ∀ base ∈ (u.info ty).bases, u.tyPars base = [] ∧ base.isNamed "Generic" = false ∧
  ((u.mro base).map identity).head? = some (identity base)
 plain : Plain (orders u ty)
 acyclic : identity ty ∉ (orders u ty).flatten.map identity

namespace Ready
variable {u : Univ} {ty : Ty}
/-- The order of a class is that of its bases merged: applying their arguments changes nothing. -/
lemma compute_eq (ready : Ready u ty) : compute u ty =
  ((merge Ty.sameCls Ty.isClsObj (orders u ty)).map (ty :: ·) id) := by
 have own : (u.info ty).bases.map (u.applySol · (u.solOf ty)) = (u.info ty).bases ∧ u.applySol ty (u.solOf ty) = ty := by
  obtain ⟨-, noArgs, noEnts⟩ := ready.declared
  rw [Univ.solOf, noEnts, noArgs]
  exact ⟨List.map_id _, rfl⟩
 have bases : effBases (u.info ty).flags (u.info ty).bases = (u.info ty).bases := by
  rw [effBases, List.filterMap_congr (g := some ∘ Prod.fst), List.filterMap_eq_map, List.zipIdx_map_fst]
  intro ⟨base, idx⟩ mem
  simp [Ty.isClsOf, (ready.bases base (List.fst_mem_of_mem_zipIdx mem)).2.1]
 have lists : ((u.info ty).bases.map fun base => if base.isClsObj then (u.mro base).map fun sup =>
   u.applySol sup (u.solOf base) else [base]) = (u.info ty).bases.map u.mro := by
  refine List.map_congr_left fun base mem => ?_
  have sol : u.solOf base = {} := by
   rw [Univ.solOf, (ready.bases _ mem).1]
   unfold Sol.ofArgs
   split <;> rfl
  rw [if_pos (ready.plain.isCls base (by simp [orders, mem])), sol]
  exact List.map_id _
 have ancestors : (merge Ty.sameCls Ty.isClsObj (orders u ty)).1.map asAncestor =
   (merge Ty.sameCls Ty.isClsObj (orders u ty)).1 := by
  refine (List.map_congr_left fun cls mem => ?_).trans (List.map_id _)
  have isCls := ready.plain.isCls cls ((ready.plain.merges _ (Nat.lt_succ_self _)).inside cls mem)
  simp_all [asAncestor, Ty.isClsObj]
 rw [compute, bases, lists, own.1, own.2, <- orders]
 simp [ancestors, asAncestor, ready.declared.1, Prod.map]

/-- What is listed for a class are the ancestors of its bases, which come first in their own orders. -/
lemma mem_orders (ready : Ready u ty) (cls : Bool × Bool × Nat × Nat × String) :
  cls ∈ (orders u ty).flatten.map identity ↔ ∃ base ∈ (u.info ty).bases, cls ∈ (u.mro base).map identity := by
 have first (base : Ty) (mem : base ∈ (u.info ty).bases) : identity base ∈ (u.mro base).map identity :=
  List.mem_of_head? (ready.bases base mem).2.2
 simp only [orders, List.flatten_append, List.flatten_singleton, List.map_append, List.mem_append]
 grind

end Ready

/-- The order of a class is the C3 order of its bases where there is one, which is told by the flag; in any case the
class comes first and each ancestor follows once. -/
theorem compute_c3 (u : Univ) (ty : Ty) (ready : Ready u ty) :
  ((compute u ty).2 = true ↔ ∃ order, Merged (identities (orders u ty)) order) ∧
   (∀ order, Merged (identities (orders u ty)) order -> (compute u ty).1.map identity = identity ty :: order) ∧
   (compute u ty).1.head? = some ty ∧ ((compute u ty).1.map identity).Nodup ∧
   ∀ cls, cls ∈ (compute u ty).1.map identity ↔
    cls = identity ty ∨ ∃ base ∈ (u.info ty).bases, cls ∈ (u.mro base).map identity := by
 obtain ⟨exact, nodup, inside, whole⟩ := ready.plain.merges _ (Nat.lt_succ_self _)
 have acyclic := ready.acyclic
 rw [ready.compute_eq, merge]
 refine ⟨by simp [exact], fun order merged => by simp [((exact order).1 merged).2], rfl, ?_, fun cls => ?_⟩
 · grind
 · rw [← ready.mem_orders]
   grind

def nth (id : Nat) : Ty := .ofCls {id, name := "", fullName := "", modName := "", srcId := id}

/-- Two classes with one base, and a class of the two. -/
def diamond : Univ where
 classes := #[{mro := [nth 0]}, {bases := [nth 0], mro := [nth 1, nth 0]},
  {bases := [nth 0], mro := [nth 2, nth 0]}, {bases := [nth 1, nth 2]}]

theorem compute_c3_diamond : Ready diamond (nth 3) ∧ (compute diamond (nth 3)).2 = true ∧
  (compute diamond (nth 3)).1.map identity = [3, 1, 2, 0].map (identity ∘ nth) := by
 have ready : Ready diamond (nth 3) := ⟨by decide, by decide, ⟨by decide, by decide, by decide⟩, by decide⟩
 have merged : Merged (identities (orders diamond (nth 3))) ([1, 2, 0].map (identity ∘ nth)) :=
  .next rfl (.next rfl (.next rfl (.done rfl)))
 obtain ⟨isValid, order, -⟩ := compute_c3 diamond (nth 3) ready
 exact ⟨ready, isValid.2 ⟨_, merged⟩, order _ merged⟩

end TypeChecker.Linearization
