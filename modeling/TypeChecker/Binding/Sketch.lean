import TypeChecker.Flow.Graph
import TypeChecker.Tree.Facts

/-! The flow graph while it is drawn. A statement draws its nodes behind the node it starts from, and only the
labels at hand are given antecedents, so that a finished branch is left through the node before it. -/

namespace TypeChecker
open FlowNode
def FlowKind.key? : FlowKind -> String?
 | .assignment node .. => node.refKey
 | _ => none

namespace FlowNode
variable (node : FlowNode)
def follow (behind : FlowId) := if node.preds.contains behind then node else {node with preds := node.preds.push behind}

/-- Whether the branch affects the reference or a part of it. -/
def touches (ref : Node) := ref.refKeys.any fun key => node.affected.any (·.contains key)

end FlowNode

/-- The nodes drawn, the one that control has reached, and the keys of the expressions noted. -/
structure Sketch where
 flow : Array FlowNode := initial
 cur : FlowId := deadId
 refs : Std.HashSet String := {}

namespace Sketch
variable (sketch : Sketch)
/-- What stands for the label once nothing more leads to it, and how much it adds to the complexity. -/
def ending (label : FlowId) :=
 let node := sketch.flow.getD label default
 match node.kind, node.preds.size with
 | _, 0 => (deadId, 0)
 | .branch _, 1 => (node.preds.getD 0 0, 0)
 | _, count => (label, 1000 * (count - 1))

/-- A new node behind others. -/
def draw (kind : FlowKind) (behind : List FlowId) :=
 {sketch with
 flow := sketch.flow.push {kind, preds := behind.toArray}
 refs := kind.key?.elim sketch.refs sketch.refs.insert}

variable {sketch} in
theorem draw_node {kind : FlowKind} {behind : List FlowId} {id : FlowId} {node : FlowNode}
  (hit : (sketch.draw kind behind).flow[id]? = some node) :
  sketch.flow[id]? = some node ∨ id = sketch.flow.size ∧ node = {kind, preds := behind.toArray} := by
 rw [draw, Array.getElem?_push] at hit
 split at hit
 · exact .inr ⟨‹_›, (Option.some.inj hit).symm⟩
 · exact .inl hit

def fork := {sketch.draw (.branch sketch.cur) [] with refs := {}}

def close (label : FlowId) (keys : Std.HashSet String) :=
 {sketch with flow := sketch.flow.modify label ({· with affected := keys})}

end Sketch

/-- A node that lies from `first` up to `stop` follows only such nodes, the node before them and the
unreachable ones, and it assigns only to the keys. -/
def Encloses (flow : Array FlowNode) (first stop before : FlowId) (keys : String -> Prop) :=
 ∀ id node, first <= id -> id < stop -> flow[id]? = some node ->
  (∀ behind ∈ node.preds, behind < stop ∧ (behind = before ∨ behind < 2 ∨ first <= behind)) ∧
  ∀ key, node.kind.key? = some key -> keys key

/-- What is known while a branch is drawn: a size that the graph has reached, the labels that may still be given
antecedents, the first node of the branch and the node before it, and the keys set aside. -/
structure Plan where
 size := 2
 labels : FlowId -> FlowKind -> Prop := fun _ _ => False
 (first before : FlowId := 0)
 keys : String -> Prop := fun _ => True

namespace Plan
variable (plan : Plan) (size : Nat)
def Fits := plan.before < plan.size ∧ plan.first <= plan.size ∧ 2 <= plan.size ∧ plan.size <= size

def label (id : FlowId) (kind : FlowKind) :=
 {plan with labels := fun other otherKind => other = id ∧ otherKind = kind ∨ plan.labels other otherKind}

def aside (refs : Std.HashSet String) := {plan with keys := fun key => plan.keys key ∨ key ∈ refs}

/-- The branch that starts with the label. -/
def branch (id before : FlowId) :=
 {plan.label id (.branch before) with size := id, first := id, before, keys := fun _ => False}

/-- The nodes that a node of the branch may follow. -/
def Has (id : FlowId) := id < size ∧ (id = plan.before ∨ id < 2 ∨ plan.first <= id)

/-- A finished branch is left through the node before it, and none of its nodes is given antecedents any more. -/
def Skips (flow : Array FlowNode) (label : FlowId) (node : FlowNode) :=
 ∀ before keys, node.kind = .branch (some before) -> node.affected = some keys -> ∃ stop ≤ flow.size, label < stop ∧
  (∀ other kind, plan.labels other kind -> other < label ∨ stop <= other) ∧ Encloses flow label stop before (· ∈ keys)

end Plan

structure Drawn (plan : Plan) (sketch : Sketch) : Prop where
 fits : plan.Fits sketch.flow.size
 ends : ∀ id node, id < 2 -> sketch.flow[id]? = some node -> node.preds = #[] ∧ node.kind.key? = none
 labels : ∀ label kind, plan.labels label kind -> 2 <= label ∧ ∃ node, sketch.flow[label]? = some node ∧ node.kind = kind
 cur : plan.Has sketch.flow.size sketch.cur
 region : Encloses sketch.flow plan.first sketch.flow.size plan.before fun key => plan.keys key ∨ key ∈ sketch.refs
 skips : ∀ label node, sketch.flow[label]? = some node -> plan.Skips sketch.flow label node

namespace Drawn
variable {plan other : Plan} {sketch later : Sketch} {label before : FlowId} {kind : FlowKind}
 {refs saved : Std.HashSet String}

theorem initial : Drawn {} {} := by
 have nodes : ∀ (id : FlowId) (node : FlowNode), FlowNode.initial[id]? = some node ->
   node.preds = #[] ∧ node.kind.key? = none ∧ node.affected = none := by
  intro id node hit
  match id with
  | 0 | 1 => cases hit; exact ⟨rfl, rfl, rfl⟩
  | _ + 2 => cases hit
 refine ⟨⟨by decide, by decide, by decide, by decide⟩, ?_, nofun, ⟨by decide, .inl rfl⟩, ?_, ?_⟩
 all_goals grind [Encloses, Plan.Skips]

/-- The labels may change, and new nodes come. -/
theorem change (drawn : Drawn plan sketch) (fits : other.Fits later.flow.size) (size : sketch.flow.size <= later.flow.size)
  (cur : other.Has later.flow.size later.cur)
  (region : Encloses later.flow other.first later.flow.size other.before fun key => other.keys key ∨ key ∈ later.refs)
  (labels : ∀ label kind, other.labels label kind -> plan.labels label kind ∨
   sketch.flow.size <= label ∧ ∃ node, later.flow[label]? = some node ∧ node.kind = kind)
  (nodes : ∀ id node, later.flow[id]? = some node -> sketch.flow[id]? = some node ∨
   sketch.flow.size <= id ∧ node.affected = none ∨ ∃ kind old, plan.labels id kind ∧ sketch.flow[id]? = some old ∧
    node.kind = old.kind ∧ (node.affected = old.affected ∨ other.Skips later.flow id node)) :
  Drawn other later where
 fits
 ends id node low hit := by
  obtain same | ⟨new, -⟩ | ⟨kind, -, isLabel, -⟩ := nodes id node hit
  · exact drawn.ends id node low same
  · grind [Plan.Fits, drawn.fits]
  · grind [(drawn.labels id kind isLabel).1]
 labels label kind isLabel := by
  obtain isLabel | ⟨new, hit⟩ := labels label kind isLabel
  · obtain ⟨high, old, hit, isKind⟩ := drawn.labels label kind isLabel
    grind [nodes label]
  · exact ⟨by grind [Plan.Fits, drawn.fits], hit⟩
 cur
 region
 skips label node hit before keys isBranch affected := by
  obtain ⟨old, oldHit, oldKind, oldAffected⟩ | skips : (∃ old, sketch.flow[label]? = some old ∧
    old.kind = node.kind ∧ old.affected = node.affected) ∨ other.Skips later.flow label node := by
   grind [nodes label node hit]
  · obtain ⟨stop, within, high, apart, encloses⟩ :=
     drawn.skips label old oldHit before keys (oldKind.trans isBranch) (oldAffected.trans affected)
    refine ⟨stop, by omega, high, fun label kind isLabel => ?_, fun id node low below hit => ?_⟩
    · grind [labels label kind isLabel]
    obtain same | ⟨new, -⟩ | ⟨kind, -, isLabel, -⟩ := nodes id node hit
    · exact encloses id node low below same
    · grind
    · grind [apart id kind isLabel]
  · exact skips before keys isBranch affected

/-- The graph stays as it is. -/
theorem replan (drawn : Drawn plan sketch) {cur : FlowId} (fits : other.Fits sketch.flow.size)
  (same : other.first = plan.first ∧ other.before = plan.before)
  (labels : ∀ label kind, other.labels label kind -> plan.labels label kind) (atCur : plan.Has sketch.flow.size cur)
  (keys : ∀ key, plan.keys key ∨ key ∈ sketch.refs -> other.keys key ∨ key ∈ refs) :
  Drawn other {sketch with cur, refs} := by
 refine drawn.change fits (Nat.le_refl _) (by grind [Plan.Has]) (fun id node low below hit => ?_)
  (fun _ _ isLabel => .inl (labels _ _ isLabel)) fun _ _ => .inl
 have := drawn.region id node
 grind

theorem setAside (drawn : Drawn plan sketch) : Drawn (plan.aside sketch.refs) {sketch with refs := {}} :=
 drawn.replan drawn.fits ⟨rfl, rfl⟩ (fun _ _ => id) drawn.cur fun _ => .inl

theorem merge (drawn : Drawn (plan.aside saved) sketch) : Drawn plan {sketch with refs := saved ∪ sketch.refs} :=
 drawn.replan drawn.fits ⟨rfl, rfl⟩ (fun _ _ => id) drawn.cur (by grind [Plan.aside, Std.HashSet.mem_union_iff])

theorem forget (drawn : Drawn (plan.label label kind) sketch) : Drawn plan sketch :=
 drawn.replan drawn.fits ⟨rfl, rfl⟩ (fun _ _ => .inr) drawn.cur fun _ => id

section
variable (drawn : Drawn plan sketch)
include drawn
/-- Control goes to another node. -/
theorem reach {cur : FlowId} (known : plan.Has sketch.flow.size cur) : Drawn plan {sketch with cur} :=
 drawn.replan drawn.fits ⟨rfl, rfl⟩ (fun _ _ => id) known fun _ => id

theorem first_le : plan.first <= sketch.flow.size := Nat.le_trans drawn.fits.2.1 drawn.fits.2.2.2

/-- A node drawn behind others is a new label. -/
theorem draw (kind : FlowKind) {behind : List FlowId}
  (known : ∀ id ∈ behind, plan.Has sketch.flow.size id) :
  Drawn (plan.label sketch.flow.size kind) (sketch.draw kind behind) := by
 have grows : sketch.flow.size < (sketch.draw kind behind).flow.size := by simp [Sketch.draw]
 have noted : ∀ key, key ∈ sketch.refs ∨ kind.key? = some key -> key ∈ (sketch.draw kind behind).refs := by
  cases isKey : kind.key? <;> grind [Sketch.draw]
 refine drawn.change ?_ (Nat.le_of_lt grows) ?_ (fun id node low below hit => ?_) ?_ fun id node hit => ?_
 · grind [Plan.Fits, Plan.label, drawn.fits]
 · exact ⟨Nat.lt_trans drawn.cur.1 grows, drawn.cur.2⟩
 · obtain old | ⟨rfl, rfl⟩ := Sketch.draw_node hit
   · obtain ⟨ids, keys⟩ := drawn.region id node low (Array.getElem?_eq_some_iff.mp old).1 old
     exact ⟨fun id hit => ⟨Nat.lt_trans (ids id hit).1 grows, (ids id hit).2⟩,
      fun key isKey => (keys key isKey).imp_right (noted key ∘ .inl)⟩
   · refine ⟨fun id hit => ?_, fun key isKey => .inr (noted key (.inr isKey))⟩
     obtain ⟨below, has⟩ := known id (List.mem_toArray.mp hit)
     exact ⟨Nat.lt_trans below grows, has⟩
 · rintro label kind (⟨rfl, rfl⟩ | isLabel)
   · exact .inr ⟨Nat.le_refl _, _, Array.getElem?_push_size, rfl⟩
   · exact .inl isLabel
 · obtain old | ⟨rfl, rfl⟩ := Sketch.draw_node hit
   · exact .inl old
   · exact .inr (.inl ⟨Nat.le_refl _, rfl⟩)

/-- A label is given an antecedent. -/
theorem link (isLabel : plan.labels label kind) {behind : FlowId}
  (known : plan.Has sketch.flow.size behind) :
  Drawn plan {sketch with flow := sketch.flow.modify label (·.follow behind)} := by
 refine drawn.change (by grind [drawn.fits]) (by simp) (by grind [drawn.cur]) (fun id node low below hit => ?_)
  (fun _ _ => .inl) fun id node hit => ?_
 · have := drawn.region id
   grind [Plan.Has, follow]
 · grind [follow]

theorem links {labels : List FlowId} (known : ∀ label ∈ labels, ∃ kind, plan.labels label kind)
  {behind : FlowId} (isBehind : plan.Has sketch.flow.size behind) :
  Drawn plan {sketch with flow := labels.foldl (·.modify · (·.follow behind)) sketch.flow} := by
 induction labels generalizing sketch with
 | nil => exact drawn
 | cons label labels linked =>
  obtain ⟨kind, isLabel⟩ := known label (by simp)
  exact linked (drawn.link isLabel isBehind) (fun other hit => known other (by simp [hit])) (by simpa using isBehind)

end

/-- A label that is finished is given the keys of the expressions noted since it was drawn. -/
theorem close (drawn : Drawn (plan.label label kind) sketch) (keys : Std.HashSet String)
  (skip : ∀ before, kind = .branch (some before) -> (∀ other kind, plan.labels other kind -> other < label) ∧
   Encloses sketch.flow label sketch.flow.size before (· ∈ keys)) : Drawn plan (sketch.close label keys) := by
 have isLabel : (plan.label label kind).labels label kind := .inl ⟨rfl, rfl⟩
 have size : (sketch.close label keys).flow.size = sketch.flow.size := by simp [Sketch.close]
 have nodes : ∀ (id : FlowId) (node : FlowNode), (sketch.close label keys).flow[id]? = some node ->
   ∃ old, sketch.flow[id]? = some old ∧ node.kind = old.kind ∧ node.preds = old.preds ∧
    if id = label then node.affected = some keys else node = old := by
  intro id node hit
  rw [Sketch.close, Array.getElem?_modify] at hit
  split at hit
  · obtain ⟨old, oldHit, rfl⟩ := Option.map_eq_some_iff.mp hit
    exact ⟨old, oldHit, rfl, rfl, by simp [*]⟩
  · exact ⟨node, hit, rfl, rfl, by grind⟩
 refine drawn.change (size ▸ drawn.fits) (Nat.le_of_eq size.symm) (size ▸ drawn.cur) (fun id node low below hit => ?_)
  (fun _ _ known => .inl (.inr known)) fun id node hit => ?_
 · obtain ⟨old, oldHit, kinds, behind, -⟩ := nodes id node hit
   rw [size, kinds, behind]
   exact drawn.region id old low (size ▸ below) oldHit
 obtain ⟨old, oldHit, kinds, -, marked⟩ := nodes id node hit
 split at marked
 · subst id
   refine .inr (.inr ⟨kind, old, isLabel, oldHit, kinds, .inr fun before noted isBranch affected => ?_⟩)
   obtain ⟨apart, encloses⟩ := skip before (by grind [drawn.labels label kind isLabel])
   refine ⟨sketch.flow.size, Nat.le_of_eq size.symm, by grind, fun _ _ isLabel => .inl (apart _ _ isLabel),
    fun id node low below hit => ?_⟩
   grind [nodes id node hit, encloses id]
 · exact .inl (marked ▸ oldHit)

theorem fork (drawn : Drawn plan sketch) :
  Drawn ((plan.label sketch.flow.size (.branch sketch.cur)).aside sketch.refs) sketch.fork ∧
  Drawn (plan.branch sketch.flow.size sketch.cur) sketch.fork := by
 have drew : Drawn _ (sketch.draw (.branch sketch.cur) []) := drawn.draw _ nofun
 refine ⟨drew.setAside, ?_⟩
 refine drew.change ?_ (Nat.le_refl _) ⟨drew.cur.1, .inl rfl⟩ ?_ (fun _ _ => .inl) fun _ _ => .inl
 · exact ⟨drawn.cur.1, Nat.le_refl _, Nat.le_trans drawn.fits.2.2.1 drawn.fits.2.2.2,
    by simp [Sketch.fork, Sketch.draw, Plan.branch]⟩
 · intro id node low below hit
   obtain old | ⟨rfl, rfl⟩ := Sketch.draw_node hit
   · exact absurd (Array.getElem?_eq_some_iff.mp old).1 (Nat.not_lt.mpr low)
   · exact ⟨nofun, nofun⟩

theorem join (outer : Drawn ((plan.label label (.branch (some before))).aside saved) sketch)
  (inner : Drawn (plan.branch label before) sketch) (old : ∀ other kind, plan.labels other kind -> other < label) :
  Drawn plan ({sketch with refs := saved ∪ sketch.refs}.close label sketch.refs) := by
 refine outer.merge.close sketch.refs fun start isStart => ?_
 cases isStart
 exact ⟨old, fun id node low below hit =>
  (inner.region id node low below hit).imp_right fun noted key isKey => (noted key isKey).elim False.elim (·)⟩

theorem ending (drawn : Drawn plan sketch) (low : plan.first <= label) (isLabel : plan.labels label kind) :
  plan.Has sketch.flow.size (sketch.ending label).1 := by
 obtain ⟨-, node, hit, -⟩ := drawn.labels label kind isLabel
 have within := (Array.getElem?_eq_some_iff.mp hit).1
 have behind := (drawn.region label node low within hit).1
 rw [Sketch.ending, Array.getD_eq_getD_getElem?, hit, Option.getD_some]
 split
 · exact ⟨by grind [drawn.fits, Plan.Fits, deadId], .inr (.inl (by decide))⟩
 · next single => simpa [Array.getD, Plan.Has, single] using behind node.preds[0] (Array.getElem_mem _)
 · exact ⟨within, .inr (.inr low)⟩

end Drawn
end TypeChecker
