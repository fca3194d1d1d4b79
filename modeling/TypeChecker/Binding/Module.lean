import TypeChecker.Binding.Walk
import TypeChecker.Parser.Statement

/-! Binding a whole source. -/

namespace TypeChecker

structure BoundMod extends NodeTables where
 block : Nat
 file : FileFacts
 src : ParsedSrc
 anc : Anc
 scope : ScopeId
 flow : Array FlowNode
 diags : Array Diag
 listed : Option ExportList

namespace BoundMod
variable (bound : BoundMod) (node : Node)
def hasScope := bound.nodeScope.contains node.id
def isDead := ((bound.anc.ancestors node).findSome? (bound.nodeFlow[·.id]?)).any FlowNode.isDead

def exports (world : ScopeWorld) : ModExports :=
 {syms := (world.scope bound.scope).syms.map fun (name, sym) => (name, (world.sym sym).flags.isHidden)
  listed := bound.listed.map (·.names), listIsUncertain := bound.listed.any (·.isUncertain)}

end BoundMod
namespace Binding

def modIntrinsics := [
 ("__name__", "str"), ("__loader__", "Any"), ("__package__", "str | None"), ("__spec__", "Any"),
 ("__path__", "MutableSequence[str]"), ("__file__", "str"), ("__cached__", "str"),
 ("__dict__", "Dict[str, Any]"), ("__annotations__", "Dict[str, Any]"), ("__builtins__", "Any"),
 ("__doc__", "str | None")]

def runTask (task : Task) := discard <| tracking do
 match task with
 | .fn node scope decl =>
  modify ({· with scope})
  bindFnBody walkTree node decl
 | .lambda node scope =>
  modify ({· with scope})
  bindLambdaBody walkTree node

def runTasks : Nat -> Nat -> Binds
 | 0, _ => pure ()
 | fuel + 1, idx => do
  let some task := (<- get).tasks[idx]? | pure ()
  runTask task
  runTasks fuel (idx + 1)

def addBuiltinAliases : Binds := do
 let some builtins := (<- read).builtins | pure ()
 let world <- world
 for (name, id) in (world.scope builtins).syms do
  let sym := world.sym id
  let some asName := sym.typingAlias | pure ()
  if !sym.flags.isHidden then modify fun s => {s with typingNames := s.typingNames.insert name asName}

def settlePrivacy : Binds := do
 let listed := (<- get).listed
 let isListed name := listed.any (·.contains name)
 let isStub := (<- file).isStub
 for (name, sym) in (<- get).hiddenPicks.toList do
  if !isListed name then
   if isStub then setFlags sym ({· with isHidden := true})
   else setFlags sym ({· with privTypedImport := true})
 for (name, sym) in (<- get).privPicks.toList do
  if !isListed name then setFlags sym ({· with privMem := true})

def bindTree (tree : Node) : Bind ScopeId := do
 addBuiltinAliases
 let builtins := (<- read).builtins
 withNewScope (if builtins.isNone then .builtin else .mod) builtins fun scope => do
  setScope tree scope
  for (name, ty) in modIntrinsics do addIntrinsic name tree ty
  startFlow
  visitStmts walkTree tree.stmts
  setAfterFlow tree (<- cur)
  setRefs tree
  setCost tree
 runTasks Node.maxCount 0
 settlePrivacy
 let state <- get
 let scope := state.nodeScope.getD tree.id 0
 for name in state.listed.getD #[] do
  ((state.world.scope scope).sym? name).forM (setFlags · ({· with inDunderAll := true}))
 pure scope

end Binding

structure BindOpts where
 block : Nat
 file : FileFacts
 importOf : Node -> ImportRes?
 exportsOf : String -> Option ModExports
 builtins : ScopeId? := none
 symsOnly := false

variable (world : ScopeWorld) (src : ParsedSrc) (opts : BindOpts)
def bindRun (anc : Anc) :=
 (Binding.bindTree src.tree).run
  {block := opts.block, file := opts.file, lines := src.lines, anc
   importOf := opts.importOf, exportsOf := opts.exportsOf, builtins := opts.builtins, symsOnly := opts.symsOnly}
  {world := world.reserve opts.block}

def bindSrc : Except String (BoundMod × ScopeWorld) :=
 let anc := Anc.ofTree src.tree src.nextId
 let (scope, state) := bindRun world src opts anc
 if let some fault := state.fault then .error fault
 else
  .ok ({block := opts.block, file := opts.file, src, anc, scope
        toNodeTables := state.toNodeTables, flow := state.flow, diags := state.sink.diags
        listed := state.listed.map fun names =>
         {names, nodes := state.listedNodes, isUncertain := state.listIsUncertain}},
       state.world)

inductive AliasStep (α : Type) where
 | stays
 | fallsBack
 | missing
 | leads (tgts : List α)

inductive AliasEnd (α : Type) where
 | decl (hit : α)
 | fallback (holder : α)
 | missing
 | cycle (last : α)

/-- Steps are allowed in rounds. When those of one are used up, the next has more than there are declarations. -/
def followAlias {m : Type -> Type} [Monad m] {α : Type} [BEq α] (step : α -> m (AliasStep α)) (known : m Nat) :
  Nat -> Nat -> List α -> α -> m (Option (AliasEnd α))
 | 0, 0, _, _ => pure none
 | rounds + 1, 0, visited, cur => do followAlias step known rounds ((<- known) + 1) visited cur
 | rounds, left + 1, visited, cur => do
  match <- step cur with
  | .stays => return some (.decl cur)
  | .fallsBack => return some (.fallback cur)
  | .missing => return some .missing
  | .leads tgts => match (tgts.filter (!visited.contains ·)).getLast? with
   | some next => followAlias step known rounds left (next :: visited) next
   | none => return some (match tgts.getLast? with | some last => .cycle last | none => .missing)
termination_by rounds left => (rounds, left)

structure BindRequest where
 text : Text
 parsing : ParseOpts
 file : FileFacts
 imports : ByName ImportRes := []
 files : ByName String := []
 builtins : String? := ""
 symsOnly := false

namespace BindRequest
variable (request : BindRequest)
def importOf (node : Node) :=
 if let .modName .. := node.kind then
  let name := Binding.formatModName node
  some ((request.imports.lookup name).getD {name, isRelative := name.startsWith ".", isHit := false})
 else none

def bindFile (world : ScopeWorld) (block : Nat) (builtins : ScopeId?) (file : FileFacts) (parsing : ParseOpts)
  (text : Text) (symsOnly : Bool) (exportsOf : String -> Option ModExports) :
  Except (ScanError ⊕ String) (BoundMod × ScopeWorld) :=
 match parseSrc? text parsing (Anc.firstId block) with
 | .error error => .error (.inl error)
 | .ok src =>
  match bindSrc world src {block, file, importOf := request.importOf, exportsOf, builtins, symsOnly} with
  | .error fault => .error (.inr fault)
  | .ok res => .ok res

def exportsIn (world : ScopeWorld) (builtins : ScopeId?) : Nat -> Strings -> String -> Option ModExports
 | 0, _, _ => none
 | fuel + 1, inProgress, path =>
  if inProgress.contains path then none
  else
   (request.files.lookup path).bind fun text =>
    let isStub := path.endsWith ".pyi"
    let file := {request.file with
     path, isStub, isTypingStub := false, isTypedPkg := false, isBuiltinStub := false}
    match request.bindFile world 3 builtins file {request.parsing with isStub}
      (Text.ofString text) false (exportsIn world builtins fuel (path :: inProgress)) with
    | .ok (bound, world) => bound.exports world
    | .error _ => none

def builtinsPath := "/builtins.pyi"

def bindBuiltins : ScopeWorld × ScopeId? :=
 if let some text := request.builtins then
  let file := {request.file with
   path := builtinsPath, modName := "builtins", isStub := true, isTypingStub := false
   isTypedPkg := false}
  match request.bindFile {} 1 none file {request.parsing with isStub := true}
    (Text.ofString text) false (request.exportsIn {} none (request.files.length + 1) []) with
  | .ok (bound, world) => (world, bound.scope)
  | .error _ => ({}, none)
 else ({}, none)

def bind : Except (ScanError ⊕ String) (BoundMod × ScopeWorld) :=
 let (world, builtins) := request.bindBuiltins
 request.bindFile world 2 builtins request.file request.parsing request.text request.symsOnly
  (request.exportsIn world builtins (request.files.length + 1) [])

end BindRequest
end TypeChecker
