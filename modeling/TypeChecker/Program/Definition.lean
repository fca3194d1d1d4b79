import TypeChecker.Program.Files

/-! Where names are defined and used. What a stub declares is looked for in the sources of the stub as well. A use is
a name that leads to one of the declarations that the given name leads to. -/

namespace TypeChecker

structure FileRange where
 path : String
 range : LineRange
 deriving DecidableEq

namespace Check
open Infer
abbrev Searching := StateT (ByName String) Eval
abbrev Search := Ref -> Searching (List Ref)
def isStubPath (path : String) := path.endsWith ".pyi"

variable [Evals]
def srcsOf (stub : String) : Searching (List BoundMod) := do
 let world <- getThe World
 let paths := (world.project.places.stubSrcs world.imports.values stub).eraseDups
 modify (paths.map (stub, ·) ++ ·)
 paths.filterMapM fun path => do
  modifyThe World fun s => {s with origins := s.origins.insertIfNew path {}}
  (loaded? path : Eval _)

def refsNamed (settle : Search) (names : Strings) (file : BoundMod) : Searching (List Ref) := do
 let mut nodes := [file.src.tree]
 let mut hit := []
 for name in names do
  let here <- nodes.mapM fun node => (refsIn node name : Eval _)
  hit := (<- here.flatten.mapM settle).flatten
  nodes := hit.map (·.decl.node)
 pure hit

def clsPath (anc : Anc) (node : Node) := ((anc.ancestors node).filterMap (·.clsParts?.map (·.name.nameVal))).reverse

section
variable (prefersStubs : Bool) (search : Search)
def settleKnown (hit : Ref) := do
 match hit.decl.kind with
 | .variable _ | .clsDef | .fn _ =>
  if hit.decl.uri.path?.any isStubPath && !prefersStubs then search hit else pure [hit]
 | .specialCls => pure [hit]
 | _ => pure []

def clsRefs (ty : Ty) : Searching (List Ref) := do
 let some path := (<- infoOf ty).uri.path? | pure []
 let files <- if isStubPath path && !prefersStubs then srcsOf path else (·.toList) <$> (loaded? path : Eval _)
 let names := (ty.cls.ref.fullName.drop (ty.cls.ref.modName.length + 1)).toString.splitOn "."
 pure (<- files.mapM (refsNamed (settleKnown prefersStubs search) names)).flatten

def valRefs (node : Node) : Searching (List Ref) := do
 let some ty <- tyAt? node | pure []
 let fns := match ty.form with
  | .fn data => data.decl.toList
  | .ovld ovls _ => ovls.filterMap fun (ovl : Ty) => ovl.fn.decl
  | _ => []
 let known <- fns.mapM fun id => do settleKnown prefersStubs search (<- refOf id)
 return known.flatten ++ (<- if ty.isClsObj then clsRefs prefersStubs search ty else pure [])

def settle (isVar : Bool) (hit : Ref) : Searching (List Ref) := do
 let isAlias := hit.decl.asAlias?.isSome
 let some hit <- hit.resolve? true | pure []
 let known <- settleKnown prefersStubs search hit
 let some facts := hit.decl.asVar? | return if isVar && !isAlias then [] else known
 if isVar then return known
 return known ++ (<- valRefs prefersStubs search (facts.tyAliasName.getD hit.decl.node))

def memRefs (owner : Strings) (name : String) (isVar : Bool) (file : BoundMod) : Searching (List Ref) := do
 let classes <- refsNamed (settle prefersStubs search false) owner file
 let hit <- (classes.filter (·.decl.kind matches .clsDef)).mapM fun hit => do
  let some made <- Evals.tyOfCls hit.decl.node | pure []
  let some mem <- clsMem? made.clsTy name | pure []
  let mems := (<- referentsOf mem.sym).filter fun hit =>
   if isVar then hit.decl.asVar?.isSome else hit.decl.asFn?.isSome
  pure (<- mems.mapM (settleKnown prefersStubs search)).flatten
 pure hit.flatten

end
variable (node : Node) (prefersStubs : Bool)
def srcRefs : Nat -> Search
 | 0, _ => pure []
 | fuel + 1, hit => do
  let search := srcRefs fuel
  let node := hit.decl.node
  let name := hit.decl.name?.getD ""
  let anc := (<- getThe World).anc
  let owner := (anc.enclCls? node).elim [] (clsPath anc)
  let inSrcs find := do
   let files <- srcsOf (hit.decl.uri.path?.getD "")
   pure (<- files.mapM find).flatten
  let named isVar := refsNamed (settle prefersStubs search isVar)
  let mem := memRefs prefersStubs search owner name
  match hit.decl.kind with
  | .clsDef => inSrcs (named false (clsPath anc node))
  | .specialCls => inSrcs (named false [name])
  | .fn facts => inSrcs (if facts.isMeth then mem false else named false [name])
  | .variable _ => if name == "" then pure [] else inSrcs (if owner.isEmpty then named true [name] else mem true)
  | .par _ =>
   let some parts := (anc.enclFn? node).bind (·.fnParts?) | pure []
   let fns := (<- refsAt parts.name).filter (·.decl.asFn?.isSome)
   let hit <- (<- fns.mapM search).flatten.mapM fun hit => (refsIn hit.decl.node name)
   return hit.flatten.filter (·.decl.kind matches .par _)
  | _ => pure []

def maxSrcSteps := 20

def defsOf (hit : List Ref) : Searching (List FileRange) := do
 let mut places := []
 for hit in hit do
  let some hit <- hit.resolve? true true | continue
  let decl := if let .importAlias {symName := some _, ..} (some _) := hit.decl.kind then
    (fallbackOf? hit.decl false).getD hit.decl
   else hit.decl
  let some path := decl.uri.path? | continue
  if decl.asAlias?.any (·.isLost) then continue
  places := places ++ [{path, range := decl.range}]
  if decl.asFn?.isSome then
   if let some {decorated := {form := .ovld ovls _, ..}, ..} <- Evals.tyOfFn decl.node then
    for id in ovls.filterMap (·.fn.decl) do
     let ovl <- declAt id
     places := places ++ (ovl.uri.path?.toList.map ({path := ·, range := ovl.range}))
  if isStubPath path then
   if decl.asAlias?.isSome then
    let files <- if prefersStubs then pure [] else srcsOf path
    places := places ++ files.map ({path := ·.file.path, range := default})
   else
    let srcs <- srcRefs prefersStubs maxSrcSteps hit
    places := places ++ srcs.filterMap fun hit => hit.decl.uri.path?.map ({path := ·, range := hit.decl.range})
 pure places.eraseDups

def defsAt : Searching (List FileRange) := do
 if !isName node || (<- isLhsOut node) then return []
 defsOf false (<- refsAt node)

def tyDefsAt : Searching (List FileRange) := do
 if !isName node then return []
 let some ty <- tyAt? node | pure []
 let classes := ty.subtys.filter (·.isCls)
 let hit := (<- classes.mapM (clsRefs true fun _ => pure [])).flatten.filter (·.decl.kind matches .clsDef)
 defsOf true (<- if hit.isEmpty then (refsAt node) else pure hit)

end Check

inductive DefFilter where
 | all | stubs | srcs

def DefFilter.apply (filter : DefFilter) (places : List FileRange) :=
 let goal := places.filter fun place => match filter with
  | .all => true
  | .stubs => Check.isStubPath place.path
  | .srcs => !Check.isStubPath place.path
 if goal.isEmpty then places else goal

namespace Prog

def runAt {α : Type} (prog : Prog) (path : String) (pos : Nat) (action : Node -> Check.Searching α) :
  Option α × Prog :=
 let ((res, met), prog) := prog.run ((do
  let some bound <- @Check.loaded? Check.evals path | pure none
  let some node := bound.src.tree.at? pos | pure none
  return (<- action node) : Check.Searching (Option α)).run [])
 let prog := met.reverse.foldl (fun prog (stub, path) =>
  let prog := if (prog.file? path).isSome then prog else prog.add {path}
  prog.update path fun file => {file with shadows := (file.shadows ++ [stub]).eraseDups}) prog
 (res, prog.absorb)

variable (prog : Prog)
def defs (path : String) (pos : Nat) (filter : DefFilter) : List FileRange × Prog :=
 let (hit, prog) := prog.runAt path pos (@Check.defsAt Check.evals)
 (filter.apply (hit.getD []), prog)

def tyDefs (path : String) (pos : Nat) : List FileRange × Prog :=
 let (hit, prog) := prog.runAt path pos (@Check.tyDefsAt Check.evals)
 (hit.getD [], prog)

end Prog
namespace Check
open Infer
def Ref.isSameUse (lhs rhs : Ref) :=
 lhs.decl.sameKind rhs.decl && lhs.decl.uri == rhs.decl.uri && match lhs.decl.asAlias?, rhs.decl.asAlias? with
  | some lhs, some rhs => lhs.symName == rhs.symName && lhs.usesLocalName == rhs.usesLocalName
  | _, _ => lhs.decl.range.start == rhs.decl.range.start

def addReferent (known : List Ref) (new : Ref) :=
 if known.any fun old => old.isSameUse new && (old.decl.asAlias?.isNone || old.decl.node == new.decl.node) then known
 else known ++ [new]

def firstPart? (mod : Node) := mod.kids.head?

variable [Evals]
def modRefs (node mod stmt : Node) : Eval (List Ref) := do
 let named <- refsAt node
 let .importAs _ asName := stmt.kind | pure named
 if named.isEmpty || mod.kids.length != 1 then return named
 let some scope <- scopeOf? node | pure named
 let some hit := (<- get).scopes.lookUp? scope (asName.getD node).nameVal | pure named
 let imports := (<- referentsOf hit.sym).filter (·.decl.asAlias?.isSome)
 let here := if imports.length <= 1 then imports else imports.filter fun hit =>
  if let some part := hit.decl.asAlias?.bind (·.firstNamePart) then part == node.nameVal else hit.decl.node == stmt
 return named ++ if asName.isSome then here.map (·.withoutLocalName) else here

variable (node : Node) (goal : List Ref)
def comparedAt : Eval (List Ref) := do
 let anc <- tree
 let parent? := anc.parent? node
 if let some parent@{kind := .modName .., ..} := parent? then
  if firstPart? parent != node then return <- refsAt node
  let some stmt := anc.parent? parent | return []
  return <- modRefs node parent stmt
 let mut hit <- refsAt node
 if let some parent@{kind := .importFromAs .., ..} := parent? then hit := hit.filter (·.decl.node == parent)
 if hit.isEmpty then if let some {form := .mod data, ..} <- tyAt? node then return [.mod data.uri]
 let bare := hit.filterMap fun hit => match hit.decl.asAlias?, hit.decl.node.kind with
  | some {load := false, ..}, .importAs mod _ => firstPart? mod
  | some {load := false, ..}, .importFrom parts => firstPart? parts.modName
  | _, _ => none
 return hit ++ (<- bare.mapM refsAt).flatten

def goalAt (node : Node) (cells : Strings) : Searching (List Ref) := do
 let mut goal := []
 for hit in <- comparedAt node do
  if let some hit <- hit.resolve? false then
   let srcs <- if hit.decl.uri.path?.any isStubPath then srcRefs false maxSrcSteps hit else pure []
   goal := (hit :: srcs.filter (!·.decl.uri.isEmpty)).foldl addReferent goal
 for path in cells do
  if let some bound <- loaded? path then
   let hit <- refsIn bound.src.tree node.nameVal
   goal := (hit.filter (·.decl.asAlias?.isNone)).foldl addReferent goal
 pure goal

def isGoalAmong (hit : List Ref) :=
 let isGoal hit := goal.any (·.isSameUse hit)
 let isRenamed hit := hit.decl.node.kind matches .importAs .. && hit.decl.asAlias?.any (·.usesLocalName)
 hit.anyM fun hit => do
  let some hit <- hit.resolve? false true | pure false
  if isGoal hit then return true
  if isRenamed hit then return isGoal hit.withoutLocalName
  let some hit <- hit.resolve? true true | pure false
  return isGoal (if isRenamed hit then hit.withoutLocalName else hit)

def usesIn (names : Strings) (bound : BoundMod) : Eval (List (Node × FileRange)) := do
 let place node span := (node, {path := bound.file.path, range := bound.src.lines.rangeOf span})
 let val node := Text.toString node.strVal
 let listed <- (bound.listed.elim [] (·.nodes.toList)).filterM fun node => do
  if !names.contains (val node) then return false
  let some hit := (<- get).scopes.lookUp? bound.scope (val node) | pure false
  isGoalAmong goal (<- referentsOf hit.sym)
 let mut hit := []
 for node in <- nodesIn bound do
  match node.kind with
  | .name name _ =>
   if names.contains name then
    if goal.isEmpty || (<- isGoalAmong goal (<- comparedAt node)) then hit := place node node.span :: hit
  | .string .. => if listed.contains node then hit := (node.strValSpan?.map (place node)).toList ++ hit
  | .strList parts .. =>
   if goal.any (·.decl.node == node) then
    let part := parts.find? fun part => names.contains (val part)
    hit := ((part.bind (·.strValSpan?)).map (place node)).toList ++ hit
  | _ => pure ()
 pure hit

/-! Visibility. -/

def ownScopeIn (world : World) : Nat -> Node -> Node?
 | 0, _ => none
 | fuel + 1, node => match world.anc.evalScope? (hasScope world) node with
  | some (scope, true) => ((world.anc.parent? scope).bind (ownScopeIn world fuel)).or scope
  | hit => hit.map (·.1)

def isSymVisible : Nat -> SymId -> Ask
 | 0, _ => pure false
 | fuel + 1, sym => do
  let flags <- symFlags sym
  if flags.isHidden || flags.privTypedImport then return false
  (<- declsOf sym).allM fun decl => do
   let name := match decl.kind, decl.node.kind with
    | .importAlias .., _ | .intrinsic _, _ | .specialCls, _ => some none
    | .clsDef, .clsDef parts | .fn _, .fnDef parts => parts.name
    | .par _, .par parts => parts.name.map some
    | .variable _, .name .. => decl.node
    | _, _ => none
   match name with
   | none => pure false
   | some none => pure true
   | some (some name) =>
    match ownScopeIn (<- get) Node.maxHeight name with
    | some {kind := .clsDef {name, ..}, ..} | some {kind := .fnDef {name, ..}, ..} =>
     let some hit <- lookUpName name name.nameVal false | pure true
     isSymVisible fuel hit.sym
    | some {kind := .modNode _, ..} => pure true
    | _ => pure false

def isVisibleOutside : Ask := do
 if let some hit <- lookUpName node node.nameVal false then if !(<- isSymVisible maxTyDepth hit.sym) then return false
 let path := (<- fileOf node).path
 let world <- get
 return goal.any fun hit =>
  let node := hit.decl.node
  hit.decl.uri.path? != path ||
  ((world.anc.evalScope? (hasScope world) node).any fun (scope, _) => scope.kind matches .modNode _ | .clsDef _) ||
  if let some {kind := .memAccess _ mem, ..} := world.anc.parent? node then mem == node else false

end Check

inductive RenameMode where
 | none | singleFile | multiFile

structure Refs where
 places : List FileRange
 names : Strings
 isGlobal : Bool
 mode : RenameMode

def Prog.refs? (prog : Prog) (path : String) (pos : Nat) (includesItself : Bool) : Option Refs × Prog :=
 let isOwnPath path := (prog.file? path).any prog.isOwn
 let isOpen := (prog.file? path).any (·.isOpen)
 let isOwn := isOwnPath path
 let files := prog.files.filter fun file => file.isOpen || !isOwn || prog.isOwn file
 let cells := if (prog.origin path).isCell then prog.cellsBefore prog.files.length path ++
  prog.cellsAfter prog.files.length path else []
 let (hit, prog) := prog.runAt path pos fun node => do
  if !Check.isName node then return none
  let goal <- @Check.goalAt Check.evals node cells
  if goal.isEmpty then return none
  let names := (goal.filterMap (·.decl.name?) ++ [node.nameVal]).eraseDups
  let uses <- files.mapM fun file => do
   let some bound <- @Check.loaded? Check.evals file.path | pure []
   @Check.usesIn Check.evals goal names bound
  let uses := uses.flatten.filter fun (hit, _) => includesItself || hit != node
  let isGlobal <- @Check.isVisibleOutside Check.evals node goal
  let places := goal.map (·.decl.uri.path?.getD "")
  let mode := if isOwn && !isGlobal || !isOwn && isOpen && places.all (· == path) then .singleFile
   else if places.all isOwnPath then .multiFile else .none
  return some {places := (uses.map (·.2)).eraseDups, names, isGlobal, mode}
 (hit.join, prog)

end TypeChecker
