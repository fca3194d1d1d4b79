import Mathlib.Tactic.Lemma
import TypeChecker.Binding.Module

/-! Jumps over branches. From the label behind a branch the flow engine goes straight to the node before the branch
if the branch affects no part of the reference that it follows. Such a jump passes over no assignment to the
reference or to a part of it. -/

namespace TypeChecker

lemma Subscript.key_eq_of_fits {own other : Subscript} (isSimple : own.isSimple) (hit : own.fits other) :
  own.key = other.key := by
 have same : ∀ val other : NumVal, val.isInteger -> other.isInteger -> val.sameAs other -> val.print = other.print := by
  intro val other
  cases val <;> cases other <;> grind [NumVal.isInteger, NumVal.sameAs, NumVal.print]
 cases own <;> cases other <;> grind [Subscript.isSimple, Subscript.fits, Subscript.key]

namespace Node

lemma isRefIn_mono {fuel more : Nat} (le : fuel <= more) {node : Node} (isRef : isRefIn fuel node) :
  isRefIn more node ∧ keysIn more node = keysIn fuel node := by
 induction fuel generalizing more node with
 | zero => cases isRef
 | succ fuel known =>
  obtain ⟨more, rfl⟩ : ∃ n, more = n + 1 := ⟨more - 1, by omega⟩
  have known := @known more (by omega)
  rw [isRefIn] at isRef ⊢
  rw [keysIn, keysIn]
  split at isRef
  all_goals simp_all

lemma firstSubscript_of_plain {items : Nodes} {trailComma : Bool} {subscript : Subscript}
  (isPlain : (plainSubscript? items trailComma).bind subscript? = some subscript) :
  firstSubscript? items = some subscript := by
 unfold plainSubscript? at isPlain
 split at isPlain
 · split at isPlain <;> grind [firstSubscript?, argVal]
 · cases isPlain

lemma keysIn_eq_of_match {fuel : Nat} {ref expr : Node} (isRef : isRefIn fuel ref)
  (hit : matchesIn fuel ref expr) : keysIn fuel ref = keysIn fuel expr := by
 induction fuel generalizing ref expr with
 | zero => cases isRef
 | succ fuel known =>
  rw [isRefIn] at isRef
  rw [matchesIn] at hit
  rw [keysIn, keysIn]
  split at hit
  · unfold boundName? at hit
    split at hit <;> simp_all [nameVal, nameVal?]
  · grind
  · next isIdx _ =>
    simp only [isIdx, Bool.and_eq_true, Option.any_eq_true] at isRef hit
    obtain ⟨⟨simple, isPlain, isSimple⟩, lhs⟩ := isRef
    obtain ⟨same, own, isOwn, other, isOther, fits⟩ := hit
    grind [firstSubscript_of_plain, Subscript.key_eq_of_fits]
  · cases hit

theorem refKey_eq_of_match {ref expr : Node} (isRef : ref.isRef) (hit : ref.matchesRef expr) : ref.refKey = expr.refKey := by
 rw [refKey, refKey, keysIn_eq_of_match isRef hit]

theorem refKey_eq_of_match_walrus : let name : Node := {(default : Node) with kind := .name "x" default}
  name.refKey = refKey {name with kind := .walrus name default default true} :=
 refKey_eq_of_match (by decide) (by decide)

/-- A string stands in a key as it is, so that of one subscript may read as those of two. -/
theorem refKey_not_injective : ∃ ref expr : Node, ref.isRef ∧ expr.isRef ∧ ref.refKey = expr.refKey ∧ !ref.matchesRef expr := by
 let node kind : Node := ⟨0, ⟨0, 0⟩, kind⟩
 let item (lhs : Node) (val : String) := node (.idx lhs [node (.arg .simple none (node (.strList
  [node (.string default (.ofString val))] none false)))] false)
 let name := node (.name "x" default)
 exact ⟨item name "a\"][\"b", item (item name "a") "b", by decide +kernel, by decide +kernel, by decide +kernel, by decide +kernel⟩

lemma refKey_mem_of_match {bound : Nat} (le : bound <= maxHeight) {ref expr : Node} (isRef : isRefIn bound ref)
  (hit : ref.matchesRef expr) : expr.refKey ∈ keysIn bound ref := by
 obtain ⟨isRefToo, same⟩ := isRefIn_mono le isRef
 rw [refKey, <- keysIn_eq_of_match isRefToo hit, same]
 cases bound <;> grind [isRefIn, keysIn, addKey]

lemma refKey_mem_of_partial {fuel bound : Nat} (le : bound <= maxHeight) {ref expr : Node} (isRef : isRefIn bound ref)
  (hit : partlyMatchesIn fuel ref expr) : expr.refKey ∈ keysIn bound ref := by
 induction fuel generalizing bound ref with
 | zero => cases hit
 | succ fuel known =>
  cases bound with
  | zero => cases isRef
  | succ bound =>
   have part : ∀ lhs, isRefIn bound lhs -> (lhs.matchesRef expr || partlyMatchesIn fuel lhs expr) ->
     expr.refKey ∈ keysIn bound lhs := fun lhs isRef hit => (Bool.or_eq_true_iff.mp hit).elim
    (refKey_mem_of_match (by omega) isRef) (known (by omega) isRef)
   rw [partlyMatchesIn] at hit
   rw [isRefIn] at isRef
   rw [keysIn]
   split at hit <;> grind [addKey]

end Node

/-- The ways back from a label that do not go on behind the node given. -/
inductive Trail (flow : Array FlowNode) (before label : FlowId) : FlowId -> Prop
 | start : Trail flow before label label
 | back {id behind : FlowId} {node : FlowNode} (trail : Trail flow before label id) (inside : id ≠ before)
   (hit : flow[id]? = some node) (isBehind : behind ∈ node.preds) : Trail flow before label behind

variable (flow : Array FlowNode)
/-- A way back from the label to the node before its branch meets an assignment to the target, or its deletion. -/
def Meets (before label : FlowId) (tgt : Node) : Prop :=
 ∃ id node unbinds sym, Trail flow before label id ∧ id ≠ before ∧ flow[id]? = some node ∧
  node.kind = .assignment tgt unbinds sym

def JumpsSafely : Prop :=
 ∀ (label before : FlowId) (node : FlowNode) (ref tgt : Node), flow[label]? = some node ->
  node.kind = .branch (some before) -> node.affected.isSome -> ref.isRef -> !node.touches ref ->
  Meets flow before label tgt -> !ref.matchesRef tgt && !ref.partlyMatchesRef tgt

namespace Drawn
variable {plan : Plan} {sketch : Sketch} (drawn : Drawn plan sketch)
include drawn
lemma trail_within {label stop before id : FlowId} {keys : String -> Prop}
  (encloses : Encloses sketch.flow label stop before keys) (high : label < stop)
  (trail : Trail sketch.flow before label id) (inside : id ≠ before) : id < 2 ∨ label <= id ∧ id < stop := by
 induction trail with
 | start => exact .inr ⟨Nat.le_refl _, high⟩
 | back _ inner hit isBehind within =>
  obtain isEnd | ⟨low, below⟩ := within inner
  · grind [drawn.ends _ _ isEnd hit]
  · grind [(encloses _ _ low below hit).1 _ isBehind]

lemma jumpsSafely : JumpsSafely sketch.flow := by
 rintro label before node ref tgt hit isBranch affected isRef apart ⟨id, met, unbinds, sym, trail, inside, metHit, assigns⟩
 obtain ⟨keys, affected⟩ := Option.isSome_iff_exists.mp affected
 obtain ⟨stop, -, high, -, encloses⟩ := drawn.skips label node hit before keys isBranch affected
 have key : met.kind.key? = some tgt.refKey := by rw [assigns]; rfl
 obtain low | ⟨low, below⟩ := drawn.trail_within encloses high trail inside
 · cases (drawn.ends id met low metHit).2.symm.trans key
 · have isKey : tgt.refKey ∈ keys := (encloses id met low below metHit).2 _ key
   have absent : tgt.refKey ∉ Node.keysIn Node.maxHeight ref := fun isPart => by
    simp [FlowNode.touches, Node.refKeys, affected] at apart
    exact apart _ isPart isKey
   grind [Node.refKey_mem_of_match Nat.le.refl isRef, Node.refKey_mem_of_partial Nat.le.refl isRef,
    Node.partlyMatchesRef]

end Drawn

theorem bindSrc_jumps_safely (world : ScopeWorld) (src : ParsedSrc) (opts : BindOpts) :
  match bindSrc world src opts with
  | .ok (bound, _) => JumpsSafely bound.flow
  | .error _ => True := by
 have drawn : Drawn {} (bindRun world src opts (.ofTree src.tree src.nextId)).2.toSketch :=
  (Binding.bindTree src.tree).keeps _ _ _ .initial ⟨by simp, by simp⟩
 unfold bindSrc
 dsimp only
 generalize bindRun world src opts (.ofTree src.tree src.nextId) = done at drawn ⊢
 obtain ⟨scope, state⟩ := done
 cases state.fault with
 | none => exact drawn.jumpsSafely
 | some fault => trivial

end TypeChecker
