import TypeChecker.Binding.Sketch
import TypeChecker.Config.Rules
import TypeChecker.Import.Resolve
import TypeChecker.StaticCondition

/-! The state of binding one source: the tables that are filled, the scope and the flow node reached, and the
labels that jumps lead to. -/

namespace TypeChecker
open FlowNode
structure FileFacts where
 path := "/main.py"
 modName := ""
 (isStub isTypingStub isTypingExtensionsStub isTypeshedStub isBuiltinStub isTypedPkg : Bool := false)
 (isNotebook : Bool := false)
 rules : RuleSet := .ofMode .standard
 ver : Ver := .latest
 platform : String? := none
 constants : ByName ConstantVal := []

structure ModExports where
 syms : Array (String × Bool)
 listed : Option (Array String)
 listIsUncertain : Bool

structure ExportList where
 names : Array String
 nodes : Array Node
 isUncertain : Bool

/-- What is known of the nodes, by their numbers. -/
structure NodeTables where
 nodeScope : Std.HashMap Nat ScopeId := {}
 (nodeFlow nodeAfterFlow : Std.HashMap Nat FlowId := {})
 nodeDecl : Std.HashMap Nat DeclId := {}
 nodeReferences : Std.HashMap Nat (Std.HashSet String) := {}
 nodeCost : Std.HashMap Nat Nat := {}

namespace Binding

inductive Jump where
 | goesOn | breaks | continues | whenTrue | whenFalse | returns | raises | leaves
 deriving DecidableEq

/-- The labels that each jump leads to. -/
abbrev Jumps := Jump -> List FlowId

structure Ctx where
 block : Nat
 file : FileFacts
 lines : LineTable
 anc : Anc
 importOf : Node -> ImportRes?
 exportsOf : String -> Option ModExports
 builtins : ScopeId?
 symsOnly := false
 jumps : Jumps := fun _ => []

inductive Task where
 | fn (node : Node) (scope : ScopeId) (decl : DeclId)
 | lambda (node : Node) (scope : ScopeId)

structure Tables extends NodeTables where
 world : ScopeWorld := {}
 sink : DiagSink := {}
 tasks : Array Task := #[]
 scope : ScopeId := 0
 fn : Option DeclId := none
 matchSubj : Node? := none
 (typingMods sysMods dataclassMods : Strings := [])
 (typingNames dataclassNames : Std.HashMap String String := {})
 listed : Option (Array String) := none
 listedNodes : Array Node := #[]
 (listIsUncertain inExcept inAnnotated : Bool := false)
 slots : Option Nodes := none
 (hiddenPicks privPicks : Std.HashMap String SymId := {})
 cost := 0
 fault : String? := none

structure State extends Sketch, Tables

/-- The labels at hand and those that jumps lead to may be given antecedents, and the branch holds the former. -/
structure Allows (plan : Plan) (own : List FlowId) (jumps : Jumps) : Prop where
 own : ∀ label ∈ own, plan.first <= label ∧ ∃ kind, plan.labels label kind
 jumps : ∀ jump, ∀ label ∈ jumps jump, ∃ kind, plan.labels label kind

/-- Where control may be sent. -/
abbrev places (own : List FlowId) := deadId :: excludedId :: own

namespace Allows
variable {plan : Plan} {own : List FlowId} {jumps : Jumps} {sketch : Sketch}
theorem known (allows : Allows plan own jumps) (drawn : Drawn plan sketch) {id : FlowId} (mine : id ∈ places own) :
  plan.Has sketch.flow.size id := by
 obtain low | mine : id < 2 ∨ id ∈ own := by grind [deadId, excludedId]
 · exact ⟨by grind [drawn.fits, Plan.Fits], .inr (.inl low)⟩
 · obtain ⟨low, kind, isLabel⟩ := allows.own id mine
   obtain ⟨-, node, hit, -⟩ := drawn.labels id kind isLabel
   exact ⟨(Array.getElem?_eq_some_iff.mp hit).1, .inr (.inr low)⟩

theorem label (allows : Allows plan own jumps) {id : FlowId} {kind : FlowKind} (low : plan.first <= id) :
  Allows (plan.label id kind) (id :: own) jumps := by
 refine ⟨fun label mine => ?_, fun jump label hit => (allows.jumps jump label hit).imp fun _ => .inr⟩
 obtain rfl | mine := List.mem_cons.mp mine
 · exact ⟨low, kind, .inl ⟨rfl, rfl⟩⟩
 · exact (allows.own label mine).imp_right fun isLabel => isLabel.imp fun _ => .inr

end Allows

/-- The labels are at hand. -/
class Holds (own labels : List FlowId) : Type where
 sub : labels ⊆ own

section
variable {own labels more : List FlowId} {label : FlowId}
instance : Holds own [] := ⟨List.nil_subset _⟩
instance : Holds (label :: own) [label] := ⟨List.cons_subset_cons _ (List.nil_subset _)⟩
instance [here : Holds own labels] : Holds (label :: own) labels := ⟨List.subset_cons_of_subset _ here.sub⟩
instance : Holds (labels ++ own) labels := ⟨List.subset_append_left ..⟩
instance [here : Holds own labels] : Holds (more ++ own) labels := ⟨List.subset_append_of_subset_right _ here.sub⟩

instance [here : Holds own labels] [there : Holds own more] : Holds own (labels ++ more) :=
 ⟨List.append_subset.mpr ⟨here.sub, there.sub⟩⟩

instance {isIn : Bool} [here : Holds own labels] [there : Holds own more] : Holds own (if isIn then labels else more) :=
 ⟨by split; exact here.sub; exact there.sub⟩

instance [here : Holds own labels] (label : {id // id ∈ labels}) : Holds own [label.1] :=
 ⟨List.cons_subset.mpr ⟨here.sub label.2, List.nil_subset _⟩⟩

end
end Binding

/-- An action that has labels of its own at hand. -/
structure BindWith (own : List FlowId) (α : Type) where
 run : Binding.Ctx -> Binding.State -> α × Binding.State
 keeps (plan : Plan) (ctx : Binding.Ctx) (state : Binding.State) :
  Drawn plan state.toSketch -> Binding.Allows plan own ctx.jumps -> Drawn plan (run ctx state).2.toSketch

abbrev Bind := BindWith []
abbrev Binds := Bind Unit

@[always_inline] instance (own : List FlowId) : Monad (BindWith own) where
 pure val := ⟨fun _ state => (val, state), fun _ _ _ drawn _ => drawn⟩
 bind first next :=
  {run := fun ctx state => let done := first.run ctx state; (next done.1).run ctx done.2
   keeps := fun _ _ _ drawn allows => (next _).keeps _ _ _ (first.keeps _ _ _ drawn allows) allows}

namespace Binding
variable {α : Type} {own : List FlowId}
/-- The action with more labels at hand. -/
@[inline] def lend {fewer : List FlowId} [here : Holds own fewer] (action : BindWith fewer α) : BindWith own α :=
 ⟨action.run, fun _ _ _ drawn allows =>
  action.keeps _ _ _ drawn ⟨fun label mine => allows.own label (here.sub mine), allows.jumps⟩⟩

@[always_inline] instance : MonadLift Bind (BindWith own) := ⟨(lend ·)⟩
@[inline] def get : Bind State := ⟨fun _ state => (state, state), fun _ _ _ drawn _ => drawn⟩
@[inline] def read : Bind Ctx := ⟨fun ctx state => (ctx, state), fun _ _ _ drawn _ => drawn⟩

@[inline] def modifyGet (change : Tables -> α × Tables) : Bind α where
 run _ state := let (val, toTables) := change state.toTables; (val, {state with toTables})
 keeps _ _ _ drawn _ := drawn

@[inline] def modify (change : Tables -> Tables) := modifyGet fun tables => ((), change tables)

/-- Makes the action only when it is run. -/
@[inline] def delay (body : Unit -> BindWith own α) : BindWith own α :=
 ⟨fun ctx state => (body ()).run ctx state, (body ()).keeps⟩

def failAssertion := modify fun s => {s with fault := s.fault <|> some "Debug Failure. False expression."}
def file : Bind FileFacts := return (<- read).file
def anc : Bind Anc := return (<- read).anc
def rangeOf (span : Span) : Bind LineRange := return LineTable.rangeOf (<- read).lines span

/-! Reporting. -/

def reportError (name : String) (span : Span) (vals : Strings := []) : Binds := do
 let range <- rangeOf span
 modify fun s => {s with sink := s.sink.add {cat := .error, msg := say name vals, range}}

def report (rule : Rule) (name : String) (span : Span) (vals actions : Strings := []) : Binds := do
 let cat := match (<- file).rules.level rule with
  | .error => some .error
  | .warning => some .warning
  | .information => some .information
  | .none => none
 let some cat := cat | pure ()
 let range <- rangeOf span
 modify fun s => {s with sink := s.sink.add {cat, msg := say name vals, range, rule := rule.name, actions}}

/-! Scopes and symbols. -/

def world : Bind ScopeWorld := return (<- get).world
def curScope : Bind Scope := return (<- get).world.scope (<- get).scope

def hasScope : Bind (Node -> Bool) := do
 let scopes := (<- get).nodeScope
 pure (scopes.contains ·.id)

variable (node : Node) (scope : ScopeId)
def setScope := modify fun s => {s with nodeScope := s.nodeScope.insert node.id scope}
def setDecl (decl : DeclId) := modify fun s => {s with nodeDecl := s.nodeDecl.insert node.id decl}

def addScope (scope : Scope) : Bind ScopeId := do
 let block := (<- read).block
 modifyGet fun state =>
  let (id, world) := state.world.addScope block scope
  (id, {state with world})

def addSym (name : String) (flags : SymFlags) :=
 modifyGet fun state =>
  let (id, world) := state.world.addSym scope name flags
  (id, {state with world})

variable (sym : SymId)
def setFlags (change : SymFlags -> SymFlags) :=
 modify fun s => {s with world := s.world.modifySym sym fun hit => {hit with flags := change hit.flags}}

def addDecl (decl : Decl) : Bind DeclId := do
 let block := (<- read).block
 modifyGet fun state =>
  let (id, world) := state.world.addDecl block decl
  (id, {state with world})

def attach (decl : DeclId) := modify fun s => {s with world := s.world.declare sym decl}

def modifyDecl (id : DeclId) (change : Decl -> Decl) := modify fun s => {s with world := s.world.modifyDecl id change}

def modifyFn (id : DeclId) (change : FnFacts -> FnFacts) :=
 modifyDecl id fun decl => if let .fn facts := decl.kind then {decl with kind := .fn (change facts)} else decl

variable (kind : DeclKind)
def makeDecl (node : Node) (range : LineRange) : Bind Decl := do
 let file <- file
 pure {kind, node, uri := .file file.path, range, modName := file.modName, inExcept := (<- get).inExcept}

def declareAt (node : Node) (span : Span) : Bind DeclId := do
 let id <- addDecl (<- makeDecl kind node (<- rangeOf span))
 attach sym id
 pure id

def lookUp? (name : String) : Bind (Option HitSym) := do
 let state <- get
 return state.world.lookUp? state.scope name

def nonClsScope (world : ScopeWorld) : Nat -> ScopeId -> ScopeId
 | 0, id => id
 | fuel + 1, id =>
  let scope := world.scope id
  match scope.kind, scope.parent with
  | .clsDef, some parent => nonClsScope world fuel parent
  | _, _ => id

def parentForScope : Bind ScopeId := do
 let state <- get
 return nonClsScope state.world ScopeWorld.maxDepth state.scope

def withNewScope (kind : ScopeKind) (parent : ScopeId?) (body : ScopeId -> Binds) : Binds := do
 let outer := (<- get).scope
 let scope <- addScope {kind, parent}
 modify ({· with scope})
 body scope
 modify ({· with scope := outer})

/-! Flow nodes. -/

def nodeCost := 25

/-- The state with one node more. -/
def State.drawing (state : State) (sketch : Sketch) := {state with toSketch := sketch, cost := state.cost + nodeCost}

def cur : Bind FlowId := return (<- get).cur
def isDead : Bind Bool := return FlowNode.isDead (<- get).cur
def setFlow (id : FlowId) := modify fun s => {s with nodeFlow := s.nodeFlow.insert node.id id}
def markFlow : Binds := do setFlow node (<- cur)

def setAfterFlow (id : FlowId) := modify fun s => {s with nodeAfterFlow := s.nodeAfterFlow.insert node.id id}

def addRef (key : String) : Binds where
 run _ state := ((), {state with refs := state.refs.insert key})
 keeps _ _ _ drawn _ := drawn.replan drawn.fits ⟨rfl, rfl⟩ (fun _ _ => id) drawn.cur (by grind)

def addRefs (nodes : Nodes) := nodes.forM (addRef ·.refKey)

variable (kind : FlowKind)
/-- A new label, or a node behind labels at hand. -/
def draw (behind : List FlowId) [here : Holds own behind]
  (body : (id : FlowId) -> BindWith (id :: own) α) : BindWith own α where
 run ctx state := (body state.flow.size).run ctx (state.drawing (state.draw kind behind))
 keeps plan ctx state drawn allows := by
  have drew : Drawn _ (state.draw kind behind) :=
   drawn.draw kind fun id hit => allows.known drawn (.tail _ (.tail _ (here.sub hit)))
  exact ((body _).keeps _ _ (state.drawing _) drew (allows.label drawn.first_le)).forget

abbrev newBranch (body : (id : FlowId) -> BindWith (id :: own) α) := draw (.branch none) [] body

def newBranches : Nat -> ((ids : List FlowId) -> BindWith (ids ++ own) α) -> BindWith own α
 | 0, body => body []
 | count + 1, body => newBranches count fun ids => newBranch fun id => body (id :: ids)

/-- Control passes a new node. -/
def pass : Binds where
 run _ state := ((), state.drawing {state.draw kind [state.cur] with cur := state.flow.size})
 keeps plan ctx state drawn _ := by
  have drew : Drawn _ (state.draw kind [state.cur]) := drawn.draw kind (by simpa using drawn.cur)
  exact drew.forget.reach ⟨by simp [Sketch.draw], .inr (.inr drawn.first_le)⟩

/-- The labels of the jump are given the node that control has reached, or the one given, as an antecedent. -/
def leadBy (jump : Jump) (src : List FlowId := []) [here : Holds (places own) src] : BindWith own Unit where
 run ctx state := ((), if FlowNode.isDead state.cur then state else {state with
  flow := (ctx.jumps jump).foldl (·.modify · (·.follow (src.headD state.cur))) state.flow})
 keeps plan ctx state drawn allows := by
  dsimp only
  split
  · exact drawn
  refine drawn.links (allows.jumps jump) ?_
  cases src with
  | nil => exact drawn.cur
  | cons => exact allows.known drawn (here.sub (.head _))

def setCur (tgt : FlowId) [here : Holds (places own) [tgt]] : BindWith own Unit where
 run _ state := ((), {state with cur := tgt})
 keeps _ _ _ drawn allows := drawn.reach (allows.known drawn (here.sub (.head _)))

def enter (label : FlowId) [here : Holds own [label]] : BindWith own Unit where
 run _ state := ((), {state with cur := (state.ending label).1, cost := state.cost + (state.ending label).2})
 keeps plan ctx state drawn allows := by
  obtain ⟨low, kind, isLabel⟩ := allows.own label (here.sub (.head _))
  exact drawn.reach (drawn.ending low isLabel)

/-- Goes back to the node that control had reached if the action asks for it. -/
def rewindIf (body : BindWith own Bool) : BindWith own Unit where
 run ctx state :=
  let (isBack, done) := body.run ctx state
  ((), if isBack then {done with cur := state.cur} else done)
 keeps plan ctx state drawn allows := by
  have raised : Drawn {plan with size := state.flow.size} state.toSketch :=
   drawn.replan (by grind [drawn.fits, Plan.Fits]) ⟨rfl, rfl⟩ (fun _ _ => id) drawn.cur fun _ => id
  have reached := body.keeps _ ctx state raised ⟨allows.own, allows.jumps⟩
  have done := body.keeps plan ctx state drawn allows
  dsimp only
  split
  · exact done.reach ⟨Nat.lt_of_lt_of_le drawn.cur.1 reached.fits.2.2.2, drawn.cur.2⟩
  · exact done

def aside (body : BindWith own Unit) := rewindIf do
 body
 pure true

/-- The jump leads to the labels. One that leaves still leads to those further out. -/
def aiming (jump : Jump) (labels : List FlowId) [here : Holds own labels] (body : BindWith own α) : BindWith own α where
 run ctx := body.run {ctx with
  jumps := fun other => if other = jump then labels ++ if jump = .leaves then ctx.jumps jump else []
   else ctx.jumps other}
 keeps _ ctx _ drawn allows := body.keeps _ _ _ drawn ⟨allows.own, fun other label hit => by
  dsimp only at hit
  split at hit
  · obtain hit | hit := List.mem_append.mp hit
    · exact (allows.own label (here.sub hit)).2
    · exact allows.jumps jump label (by split at hit <;> simp_all)
  · exact allows.jumps other label hit⟩

def leadTo (label : FlowId) (src : List FlowId := []) [Holds own [label]] [Holds (places own) src] : BindWith own Unit :=
 aiming .goesOn [label] (leadBy .goesOn src)

variable (body : Bind α)
def unsteered := aiming .whenTrue [] (aiming .whenFalse [] body)

def negated : Bind α where
 run ctx := body.run { ctx with jumps := fun
  | .whenTrue => ctx.jumps .whenFalse
  | .whenFalse => ctx.jumps .whenTrue
  | jump => ctx.jumps jump}
 keeps _ _ _ drawn allows := body.keeps _ _ _ drawn ⟨allows.own, (by cases · <;> exact allows.jumps _)⟩

def tracking (body : BindWith own α) : BindWith own (Std.HashSet String × α) where
 run ctx state :=
  let (val, done) := body.run ctx {state with refs := {}}
  ((done.refs, val), {done with refs := state.refs ∪ done.refs})
 keeps plan ctx state drawn allows :=
  (body.keeps (plan.aside state.refs) ctx {state with refs := {}} drawn.setAside ⟨allows.own, allows.jumps⟩).merge

def looping (body : (start : FlowId) -> BindWith (start :: own) (Std.HashSet String)) : BindWith own Unit where
 run ctx state :=
  let start := state.flow.size
  let (affected, done) := (body start).run ctx (state.drawing (state.draw .loop []))
  ((), {done with toSketch := done.close start affected})
 keeps plan ctx state drawn allows := by
  have drew : Drawn _ (state.draw .loop []) := drawn.draw .loop nofun
  exact ((body _).keeps _ _ (state.drawing _) drew (allows.label drawn.first_le)).close _ nofun

/-- Draws a branch that comes together at a label. -/
def rejoin (body : (after : FlowId) -> BindWith [after] α) : Bind α where
 run ctx state :=
  let after := state.flow.size
  let (val, done) := (body after).run ctx (state.drawing state.fork)
  (val, {done with toSketch := {done.toSketch with refs := state.refs ∪ done.refs}.close after done.refs})
 keeps plan ctx state drawn allows := by
  obtain ⟨forked, inside⟩ := drawn.fork
  have allowed : Allows (plan.label state.flow.size (.branch state.cur)) _ _ := allows.label drawn.first_le
  have outer := (body _).keeps _ ctx (state.drawing state.fork) forked ⟨allowed.own, allowed.jumps⟩
  have inner := (body _).keeps _ ctx (state.drawing state.fork) inside
   ⟨fun label mine => ⟨Nat.le_of_eq (List.mem_singleton.mp mine).symm, (allowed.own _ mine).2⟩, allowed.jumps⟩
  refine outer.join inner fun other kind isLabel => ?_
  obtain ⟨-, node, hit, -⟩ := drawn.labels other kind isLabel
  exact (Array.getElem?_eq_some_iff.mp hit).1

def addVarHint : Binds := do if !(<- isDead) then pass .varHint

def staticTruth? (cond : Node) : Bind Bool? := do
 let file <- file
 let state <- get
 let facts : StaticFacts :=
  {ver := file.ver, platform := file.platform, constants := file.constants
   typingAliases := state.typingMods, sysAliases := state.sysMods}
 return facts.truth? cond

end Binding
end TypeChecker
