import Std.Data.HashSet
import TypeChecker.Binding.Scope

/-! Flow graphs: their nodes, the search for what can be reached, and drawings in box characters. -/

namespace TypeChecker

abbrev FlowId := Nat

inductive CondKind where
 | isTrue | isFalse
 | isTrueNever
 | isFalseNever
 deriving DecidableEq

inductive FlowKind where
 | dead
 | excluded
 | start
 | branch (before : Option FlowId)
 | loop
 | contextManager (exprs : Nodes) (isAsync blocks : Bool)
 | assignment (node : Node) (unbinds : Bool) (sym : SymId?)
 | wildImport (node : Node) (names : Array String)
 | cond (kind : CondKind) (expr : Node) (ref : Node?)
 | call (node : Node)
 | finallyGate
 | afterFinally (suite : Node) (gate : FlowId)
 | varHint
 | pat (subj stmt : Node)
 | fullMatch (node subj : Node)

structure FlowNode where
 kind : FlowKind
 preds : Array FlowId := #[]
 affected : Option (Std.HashSet String) := none

instance : Inhabited FlowNode := ⟨⟨.dead, #[], none⟩⟩

namespace FlowNode

def deadId := 0
def excludedId := 1
def isDead (id : FlowId) := id == deadId || id == excludedId
def initial : Array FlowNode := #[{kind := .dead}, {kind := .excluded}]

def successors (node : FlowNode) :=
 match node.kind with
 | .branch (some before) => node.preds.push before
 | .afterFinally _ gate => node.preds.push gate
 | _ => node.preds

end FlowNode

def wildKey := "*"

inductive Reach where
 | reachable | structural | staticCond | byAnalysis
 deriving DecidableEq, Inhabited

def Reach.worse : Reach -> Reach -> Reach
 | .byAnalysis, _ | _, .byAnalysis => .byAnalysis
 | .staticCond, _ | _, .staticCond => .staticCond
 | lhs, _ => lhs

structure FlowOracle (m : Type -> Type) where
 neverReturns : Node -> m Bool
 swallowsExceptions : Nodes -> Bool -> m Bool
 isNever : FlowKind -> m Bool
 known? : FlowId -> m (Option Reach)
 remember : Reach -> m Unit

structure FlowSearch where
 visited : Std.HashSet FlowId := {}
 closed : List FlowId := []

namespace FlowSearch

def maxDepth := 64

def firstLive {m : Type -> Type} [Monad m] (search : FlowId -> m Reach) : List FlowId -> Reach -> m Reach
 | [], hit => pure hit
 | id :: rest, hit => do
  match <- search id with
  | .reachable => pure .reachable
  | reason => firstLive search rest (hit.worse reason)

variable {m : Type -> Type} [Monad m] (graph : Array FlowNode) (oracle : FlowOracle m) (src : Option FlowId)
 (ignoresCalls : Bool)

def searchIn : Nat -> Nat -> FlowId -> FlowId -> StateT FlowSearch m Reach
 | 0, _, _, _ => pure .reachable
 | fuel + 1, depth, origin, id => do
  let state <- get
  if state.closed.isEmpty then if let some hit <- oracle.known? origin then return hit
  let answer (hit : Reach) := do
   if (<- get).closed.isEmpty then oracle.remember hit
   pure hit
  if state.visited.contains id then return <- answer .structural
  set {state with visited := state.visited.insert id}
  let node := graph.getD id default
  let first := node.preds.getD 0 FlowNode.deadId
  let branch id := if depth < maxDepth then searchIn fuel (depth + 1) id id else pure .reachable
  if FlowNode.isDead id then return <- answer (if id == FlowNode.excludedId then .staticCond else .structural)
  if src == id then return <- answer .reachable
  match node.kind with
  | .dead => answer .structural
  | .excluded => answer .staticCond
  | .start => answer (if src.isSome then .byAnalysis else .reachable)
  | .varHint | .assignment .. | .wildImport .. | .fullMatch .. => searchIn fuel depth origin first
  | .pat .. | .cond _ _ (some _) =>
   if <- oracle.isNever node.kind then answer .byAnalysis else searchIn fuel depth origin first
  | .cond .. => searchIn fuel depth origin first
  | .call call =>
   let blocks <- pure !ignoresCalls <&&> oracle.neverReturns call
   if blocks then answer .byAnalysis else searchIn fuel depth origin first
  | .contextManager exprs isAsync _ =>
   if <- oracle.swallowsExceptions exprs isAsync then
    answer (<- firstLive branch node.preds.toList .structural)
   else answer .byAnalysis
  | .branch _ | .loop => answer (<- firstLive branch node.preds.toList .structural)
  | .finallyGate => if (<- get).closed.contains id then answer .byAnalysis else searchIn fuel depth origin first
  | .afterFinally _ gate =>
   let wasClosed := (<- get).closed.contains gate
   modify fun s => {s with closed := gate :: s.closed}
   let hit <- branch first
   if !wasClosed then modify fun s => {s with closed := s.closed.filter (· != gate)}
   pure hit

def search (id : FlowId) := (·.1) <$> (searchIn graph oracle src ignoresCalls (graph.size + 1) 0 id id).run {}

end FlowSearch
namespace FlowDrawing

structure Graph where
 nodes : Array (FlowId × Bool) := #[]
 (kids parents : Array (Array Nat) := #[])
 idx : Std.HashMap FlowId Nat := {}

namespace Graph
variable (graph : Graph)
def addNode (flow : FlowId) (isCircular : Bool) :=
 (graph.nodes.size,
  {graph with
  nodes := graph.nodes.push (flow, isCircular)
  kids := graph.kids.push #[], parents := graph.parents.push #[]
  idx := if isCircular then graph.idx else graph.idx.insert flow graph.nodes.size})

def addEdge (src tgt : Nat) :=
 {graph with kids := graph.kids.modify src (·.push tgt), parents := graph.parents.modify tgt (·.push src)}

mutual

def build (flow : Array FlowNode) : Nat -> List FlowId -> FlowId -> Graph -> Nat × Graph
 | 0, _, id, graph => graph.addNode id true
 | fuel + 1, path, id, graph =>
  if let some known := graph.idx[id]? then if path.contains id then graph.addNode id true else (known, graph)
  else
   let (src, graph) := graph.addNode id false
   (src, buildEdges flow fuel (id :: path) src (flow.getD id default).preds.toList graph)

def buildEdges (flow : Array FlowNode) : Nat -> List FlowId -> Nat -> List FlowId -> Graph -> Graph
 | 0, _, _, _, graph | _, _, _, [], graph => graph
 | fuel + 1, path, src, id :: rest, graph =>
  let (tgt, graph) := build flow fuel path id graph
  buildEdges flow fuel path src rest (graph.addEdge src tgt)

end
variable (node : Nat)
def kidsOf := graph.kids.getD node #[]
def parentsOf := graph.parents.getD node #[]

def level : Nat -> Nat -> Array Nat? -> Nat × Array Nat?
 | 0, _, levels => (0, levels)
 | fuel + 1, node, levels =>
  if let some known := levels.getD node none then (known, levels)
  else
   let (hit, levels) := (graph.parentsOf node).foldl (fun (hit, levels) parent =>
    let (parentLevel, levels) := level fuel parent levels
    (max hit (parentLevel + 1), levels)) (0, levels)
   (hit, levels.setIfInBounds node hit)

def levels :=
 let count := graph.nodes.size
 let hit := (List.range count).foldl (fun levels node =>
  (graph.level (count + 1) node levels).2) (Array.replicate count none)
 hit.map (·.getD 0)

abbrev Lanes := Array (Option (Nat × Nat))
def laneOf (lanes : Lanes) (node : Nat) := ((lanes.getD node none).getD (0, 0)).1

mutual

def placeLanes (graph : Graph) : Nat -> Nat -> Nat -> Lanes -> Lanes
 | 0, _, _, lanes => lanes
 | fuel + 1, node, lane, lanes =>
  if let some _ := lanes.getD node none then lanes
  else
   let lanes := lanes.setIfInBounds node (lane, lane)
   let (last, lanes) := placeKids graph fuel lane true lane (graph.kidsOf node).toList lanes
   lanes.setIfInBounds node (lane, last)

def placeKids (graph : Graph) : Nat -> Nat -> Bool -> Nat -> List Nat -> Lanes -> Nat × Lanes
 | 0, _, _, lane, _, lanes | _, _, _, lane, [], lanes => (lane, lanes)
 | fuel + 1, own, isFirst, lane, child :: rest, lanes =>
  let lane := if isFirst then lane else lane + 1
  let lanes := placeLanes graph fuel child lane lanes
  let last := ((lanes.getD child none).getD (0, 0)).2
  placeKids graph fuel own false (if last > own then last else lane) rest lanes

end
end Graph

/-! Connectors. -/

structure Joint where
 (up down lhs rhs : Bool := false)
 isLeaf := false
 deriving DecidableEq

namespace Joint

def union (first second : Joint) : Joint :=
 {up := first.up || second.up, down := first.down || second.down
  lhs := first.lhs || second.lhs, rhs := first.rhs || second.rhs, isLeaf := first.isLeaf || second.isLeaf}

def char (joint : Joint) :=
 if joint.isLeaf then " "
 else match joint.up, joint.down, joint.lhs, joint.rhs with
  | true, true, false, false => "│"
  | false, false, true, true => "─"
  | true, false, true, false => "╯"
  | true, false, false, true => "╰"
  | false, true, true, false => "╮"
  | false, true, false, true => "╭"
  | true, true, true, false => "┤"
  | true, true, false, true => "├"
  | true, false, true, true => "┴"
  | false, true, true, true => "┬"
  | true, true, true, true => "╫"
  | _, _, _, _ => " "

end Joint

abbrev Joints := Array (Array Joint)

variable (joints : Joints) (column lane : Nat)
def Joints.at := (joints.getD column #[]).getD lane {}
def Joints.add (joint : Joint) : Joints := joints.modify column (·.modify lane (·.union joint))

def connect (graph : Graph) (levels : Array Nat) (lanes : Graph.Lanes) (joints : Joints)
  (node : Nat) : Joints :=
 let column := levels.getD node 0
 let lane := Graph.laneOf lanes node
 let kids := graph.kidsOf node
 let parents := graph.parentsOf node
 let joints := kids.zipIdx.foldl (fun joints (child, idx) =>
  let childLane := Graph.laneOf lanes child
  joints.add column childLane
   {rhs := true, lhs := childLane == lane, up := idx > 0, down := idx + 1 < kids.size}) joints
 let joints := if kids.isEmpty then joints.add column lane {isLeaf := true} else joints
 parents.zipIdx.foldl (fun joints (parent, idx) =>
  joints.add (column - 1) (Graph.laneOf lanes parent)
   {lhs := true, up := idx > 0, down := idx + 1 < parents.size}) joints

def fillGaps (columns lanes : Nat) :=
 (List.range columns).foldl (fun joints column =>
  (List.range lanes).foldl (fun joints lane =>
   if joints.at column lane == {} then
    let fromLhs := column > 0 && (joints.at (column - 1) lane).rhs
    let fromAbove := lane > 0 && (joints.at column (lane - 1)).down
    joints.add column lane {lhs := fromLhs, rhs := fromLhs, up := fromAbove, down := fromAbove}
   else joints) joints) joints

def repeated (piece : String) (count : Nat) := String.join (.replicate count piece)

def draw (flow : Array FlowNode) (write : FlowId -> String) (root : FlowId) : String :=
 let fuel := 4 * (flow.size + 2) * (flow.size + 2)
 let (rootIdx, graph) := Graph.build flow fuel [] root {}
 let count := graph.nodes.size
 let texts := graph.nodes.map fun (id, isCircular) => if isCircular then "Circular(" ++ write id ++ ")" else write id
 let levels := graph.levels
 let columns := levels.foldl max 0 + 1
 let widths := (List.range count).foldl (fun widths node =>
  widths.modify (levels.getD node 0) (max · (texts.getD node "").length))
  (Array.replicate columns 0)
 let lanes := graph.placeLanes fuel rootIdx 0 (Array.replicate count none)
 let laneCount := (List.range count).foldl (fun last node => max last (Graph.laneOf lanes node)) 0 + 1
 let nodes := List.range count
 let grid := nodes.foldl (fun grid node =>
  grid.modify (levels.getD node 0) (·.setIfInBounds (Graph.laneOf lanes node) node))
  (Array.replicate columns (Array.replicate laneCount none))
 let joints := nodes.foldl (connect graph levels lanes) (Array.replicate columns (Array.replicate laneCount {}))
 let joints := fillGaps joints columns laneCount
 let nodeAt column lane := (grid.getD column #[]).getD lane none
 let cell column lane :=
  let joint := joints.at column lane
  let width := widths.getD column 0
  let isLast := column + 1 == columns
  let fill := if joint.lhs then "─" else " "
  let body := if let some node := nodeAt column lane then
    let text := texts.getD node ""
    if isLast then text else text ++ " " ++ repeated fill (width - text.length)
   else if isLast then "" else repeated fill (width + 1)
  let link := joint.rhs && !isLast && (nodeAt (column + 1) lane).isNone
  body ++ joint.char ++ (if link then "─" else " ")
 "\n".intercalate ((List.range laneCount).map fun lane => String.join ((List.range columns).map (cell · lane))) ++ "\n"

/-! How nodes are written. -/

def header : FlowKind -> String
 | .start => "Start"
 | .branch _ | .contextManager .. => "Branch"
 | .loop => "Loop"
 | .assignment _ unbinds _ => if unbinds then "Unbind" else "Assign"
 | .cond .isTrue .. => "True"
 | .cond .isFalse .. => "False"
 | .call _ => "Call"
 | .excluded => "UnreachableStaticCondition"
 | .dead => "UnreachableStructural"
 | .wildImport .. => "Wildcard"
 | .finallyGate => "PreFinal"
 | .afterFinally .. => "PostFinal"
 | .varHint => "Annotate"
 | .cond .isTrueNever .. => "TrueNever"
 | .cond .isFalseNever .. => "FalseNever"
 | .pat .. => "Pattern"
 | .fullMatch .. => "Exhaust"

def shownNode? : FlowKind -> Node?
 | .assignment node _ _ | .wildImport node _ | .call node | .cond .isTrue node _ | .cond .isFalse node _ => node
 | .pat _ stmt => stmt
 | _ => none

def text (lines : LineTable) (kind : FlowKind) (number : Nat) :=
 let place := (shownNode? kind).map fun node =>
  let pos := LineTable.posOf lines node.start
  "[" ++ (pos.line + 1).repr ++ ":" ++ (pos.char + 1).repr ++ "]"
 header kind ++ "@" ++ number.repr ++ place.getD ""

end FlowDrawing
end TypeChecker
