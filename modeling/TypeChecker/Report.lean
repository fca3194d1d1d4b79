import TypeChecker.Datum
import TypeChecker.Program.Definition
import TypeChecker.Program.Stub

/-! Reports: bound sources with their scopes, symbols, declarations and flow graph, look-ups, what imports lead to,
and what was found in the files of programs. -/

namespace TypeChecker.Report

def scanFailure (error : ScanError) : Datum := .failure error.name error.msg

def mark (isSet : Bool) : Datum? := if isSet then true else none

def diag (diag : Diag) : Datum :=
 .named "cat msg range rule actions" [diag.cat.name, diag.msg, diag.range, diag.rule,
  if diag.actions.isEmpty then none else diag.actions]

def diags (list : Array Diag) : Datum := list.map diag

def sortedBy {α : Type} (key : α -> String) (items : List α) :=
 items.mergeSort fun lhs rhs => !unitsLess (key rhs) (key lhs)

def sorted := sortedBy id

def nodeRef (node : Node) : Datum := node.ref
instance : Reported Node := ⟨nodeRef⟩

def scanned {α : Type} (write : α -> Datum) : Except ScanError α -> Datum
 | .ok val => write val
 | .error error => scanFailure error

/-! Declarations. -/

def uriText : ModUri -> String
 | .none => ""
 | .lost => "*** unresolved module ***"
 | .file path => path

def declKindName : DeclKind -> String
 | .intrinsic _ => "Intrinsic" | .variable _ => "Variable" | .par _ => "Param"
 | .tyPar => "TypeParam" | .tyAlias _ => "TypeAlias" | .fn _ => "Function"
 | .clsDef => "Class" | .specialCls => "SpecialBuiltInClass" | .importAlias .. => "Alias"

def loaderActionsIn : Nat -> ByName LoadPlan -> Datum
 | 0, _ => .array #[]
 | fuel + 1, ents => (sortedBy (·.1) ents).map fun (name, actions) => Datum.named "name uri load unresolved implicit"
   [name, uriText actions.uri, actions.load, actions.isLost, loaderActionsIn fuel actions.implicit]

def nodeRefs (nodes : Array Node) : Datum? := if nodes.isEmpty then none else nodes

def aliasFields (facts : AliasFacts) : ByName Datum? :=
 [("usesLocalName", mark facts.usesLocalName), ("loadSymbolsFromPath", mark facts.load),
  ("symbolName", facts.symName), ("firstNamePart", facts.firstNamePart),
  ("implicitImports", if facts.implicit.isEmpty then none else loaderActionsIn 1000 facts.implicit),
  ("isUnresolved", mark facts.isLost), ("isNativeLib", mark facts.isNative)]

def commonFields (decl : Decl) : ByName Datum? :=
 [("kind", declKindName decl.kind), ("node", decl.node), ("range", decl.range), ("uri", uriText decl.uri),
  ("name", decl.name?), ("hasType", decl.hasTy), ("isInExceptSuite", mark decl.inExcept)]

def kindFields (decl : Decl) : ByName Datum? :=
 match decl.kind with
 | .intrinsic ty => [("intrinsicType", ty)]
 | .variable facts =>
  [("typeAnnotationNode", facts.hint), ("inferredTypeSource", facts.inferredSrc),
   ("isConstant", mark facts.isConstant), ("isFinal", mark facts.isFinal),
   ("isDefinedBySlots", mark facts.isDefinedBySlots),
   ("isInferenceAllowedInPyTyped", mark facts.isInferredInTypedPkg), ("typeAliasName", facts.tyAliasName),
   ("isDefinedByMemberAccess", mark facts.isMemDefined), ("docString", facts.docStr),
   ("isExplicitBinding", mark facts.isDeclaring)]
 | .fn facts =>
  [("isMethod", mark facts.isMeth), ("isGenerator", mark facts.isGen), ("returnStatements", nodeRefs facts.returns),
   ("yieldStatements", nodeRefs facts.yields), ("raiseStatements", nodeRefs facts.raises)]
 | .tyAlias docStr => [("docString", docStr)]
 | .importAlias facts fallback =>
  aliasFields facts ++ [("submoduleFallback", fallback.map fun (uri, facts, _) =>
   .fields (commonFields {decl with uri, kind := .importAlias facts none, range := default} ++ aliasFields facts))]
 | _ => []

def decl (decl : Decl) : Datum := .fields (commonFields decl ++ kindFields decl)

/-! Scopes. -/

def sym (world : ScopeWorld) (name : String) (id : SymId) : Datum :=
 let hit := world.sym id
 .named "name flags decls alias" [name, hit.flags.toNat, (world.declsOf id).map decl, hit.typingAlias]

variable (bound : BoundMod)
def scopesOf :=
 bound.src.tree.preorder.foldl (fun hit node =>
  if let some scope := bound.nodeScope[node.id]? then
   if hit.any (·.1 == scope) then hit else hit.push (scope, node)
  else hit) #[]

variable (world : ScopeWorld)
def scopeOutline (listed : Array (ScopeId × Node)) (intrinsics : Bool) (id : ScopeId) (node : Node) : Datum :=
 let scope := world.scope id
 let idxOf id : Datum? := listed.findIdx? (·.1 == id)
 let isShown (sym : SymId) := intrinsics ||
  let decls := world.declsOf sym
  !(decls.size == 1 && decls.all (·.kind matches .intrinsic _))
 .named "node type parent proxy slots bindings symbols" [node, scope.kind.name,
  Datum.ofOption (scope.parent.map fun parent => (idxOf parent).getD (world.scope parent).kind.name),
  scope.proxy.bind idxOf, scope.slots, (sortedBy (·.1) scope.bindings).map fun (name, binding) => [name, binding.name],
  (sortedBy (·.1) (scope.syms.toList.filter (isShown ·.2))).map fun (name, id) => sym world name id]

def scopes (intrinsics : Bool) : Datum :=
 let listed := scopesOf bound
 listed.zipIdx.map fun ((id, node), idx) => scopeOutline world (listed.take idx) intrinsics id node

/-! The flow graph. -/

structure FlowNumbers where
 order : Array FlowId := #[]
 numbers : Std.HashMap FlowId Nat := {}

namespace FlowNumbers

def number (known : FlowNumbers) (id : FlowId) := known.numbers.getD id 0

def visit (flow : Array FlowNode) : Nat -> List FlowId -> FlowNumbers -> FlowNumbers
 | 0, _, known | _, [], known => known
 | fuel + 1, id :: rest, known =>
  if known.numbers.contains id then visit flow fuel rest known
  else
   visit flow fuel ((flow.getD id default).successors.toList ++ rest)
    {order := known.order.push id, numbers := known.numbers.insert id known.order.size}

end FlowNumbers

def executionNodes := bound.src.tree.preorder.filter fun node => node.isMod || node.isFn || node.isLambda

def flowNumbers : FlowNumbers :=
 let nodes := bound.src.tree.preorder
 let starts := (executionNodes bound).filterMap (bound.nodeAfterFlow[·.id]?) ++ nodes.filterMap (bound.nodeFlow[·.id]?)
 let edges := bound.flow.foldl (fun total node => total + node.successors.size) 0
 starts.foldl (fun known start => .visit bound.flow (edges + bound.flow.size + 1) [start] known) {}

def flowFlags : FlowKind -> String
 | .dead => "UnreachableStructural" | .excluded => "UnreachableStaticCondition"
 | .start => "Start" | .branch _ => "BranchLabel" | .loop => "LoopLabel"
 | .contextManager .. => "BranchLabel|PostContextManager"
 | .assignment _ unbinds _ => if unbinds then "Assignment|Unbind" else "Assignment"
 | .wildImport .. => "WildcardImport"
 | .cond .isTrue .. => "TrueCondition" | .cond .isFalse .. => "FalseCondition"
 | .cond .isTrueNever .. => "TrueNeverCondition"
 | .cond .isFalseNever .. => "FalseNeverCondition"
 | .call _ => "Call" | .finallyGate => "PreFinallyGate" | .afterFinally .. => "PostFinally"
 | .varHint => "VariableAnnotation" | .pat .. => "NarrowForPattern"
 | .fullMatch .. => "ExhaustedMatch"

variable (numbers : FlowNumbers)
def flowFields : FlowKind -> ByName Datum?
 | .assignment node _ _ | .call node => [("n", node)]
 | .wildImport node names => [("n", node), ("names", sorted names.toList)]
 | .cond _ node ref => [("n", node), ("ref", ref)]
 | .afterFinally suite gate => [("n", suite), ("gate", numbers.number gate)]
 | .pat subj node | .fullMatch node subj => [("n", node), ("s", subj)]
 | .branch before => [("pre", before.map (numbers.number ·))]
 | .contextManager managers isAsync blocks => [("x", managers), ("async", isAsync), ("block", blocks)]
 | _ => []

def flowNode (node : FlowNode) : Datum :=
 .fields <| (flowFields numbers node.kind).append [("f", flowFlags node.kind),
  ("a", if node.kind matches .dead | .excluded | .start then none else node.preds.map numbers.number),
  ("e", node.affected.map (sorted ·.toList))]

def deadIn : Nat -> Nodes -> Nodes
 | 0, _ | _, [] => []
 | fuel + 1, node :: rest =>
  if bound.isDead node then node :: deadIn fuel rest else deadIn fuel (node.kids ++ rest)

def executionScopes : Datum :=
 (executionNodes bound).map fun (node : Node) => Datum.named "node end exprs complexity" [node,
  Datum.ofOption (bound.nodeAfterFlow[node.id]?.map (numbers.number ·)),
  bound.nodeReferences[node.id]?.map (sorted ·.toList), bound.nodeCost.getD node.id 0]

def flow (numbers : FlowNumbers) : ByName Datum? :=
 [("flow", numbers.order.map fun id => flowNode numbers (bound.flow.getD id default)),
  ("exec", executionScopes bound numbers),
  ("refs", bound.src.tree.preorder.filterMap fun (node : Node) =>
   bound.nodeFlow[node.id]?.map (Datum.array #[node, numbers.number ·])),
  ("unreachable", deadIn bound Node.maxCount [bound.src.tree])]

def graphs : Datum :=
 let write id := FlowDrawing.text bound.src.lines (bound.flow.getD id default).kind (numbers.number id)
 (executionNodes bound).filterMap fun node => bound.nodeAfterFlow[node.id]?.map fun id =>
  FlowDrawing.draw bound.flow write id

/-! Look-ups. -/

def missingScope : Datum := .failure "Error" "Debug Failure. Did not find evaluation scope"

def lookUp (world : ScopeWorld) (pos : Int) (name : String) : Datum :=
 if let some node := bound.src.tree.at? pos then
  if let some (scopeNode, useProxy) := bound.anc.evalScope? bound.hasScope node then
   let scope := bound.nodeScope.getD scopeNode.id 0
   if let some hit := world.lookUp? scope name useProxy then .named "from scope decls outside beyond nonlocal global"
     [scopeNode, (world.scope hit.scope).kind.name, (world.declsOf hit.sym).map (·.node),
      hit.path.outsideMod, hit.path.pastExec, hit.path.usesNonlocal, hit.path.usesGlobal]
   else .null
  else missingScope
 else .null

structure BoundView where
 (scopes flow : Bool := true)
 (graph intrinsics : Bool := false)
 lookUps : Option (Array (Int × String)) := none

def boundMod (view : BoundView) (bound : BoundMod) (world : ScopeWorld) : Datum :=
 let numbers := flowNumbers bound
 let flowing := if view.flow then flow bound numbers else []
 .fields <| flowing.append [("diags", diags bound.diags), ("parseDiags", bound.src.diags.size),
  ("dunderAll", bound.listed.map fun listed =>
   .named "names nodes unsupported" [listed.names, listed.nodes, listed.isUncertain]),
  ("scopes", if view.scopes then scopes bound world view.intrinsics else none),
  ("graphs", if view.graph then graphs bound numbers else none),
  ("lookups", view.lookUps.map (·.map fun (pos, name) => lookUp bound world pos name))]

variable (request : BindRequest)
def withBound (write : BoundMod -> ScopeWorld -> Datum) : Datum :=
 match request.bind with
 | .ok (bound, world) => write bound world
 | .error (.inl error) => scanFailure error
 | .error (.inr fault) => .failure "Error" fault

def modUri : ModUri -> String
 | .file path => path
 | _ => ""

def kindName : ImportKind -> String
 | .builtIn => "BuiltIn"
 | .thirdParty => "ThirdParty"
 | .local => "Local"

def importFields (res : ImportRes) (nonStub : Datum?) : Datum :=
 let submodules items := (sortedBy (·.name) items).map fun item =>
  Datum.array #[item.name, modUri item.uri, item.isStub, item.isNative, item.isTyped]
 .fields [("name", res.name), ("found", res.isHit), ("relative", res.isRelative), ("partly", res.isPartlyResolved),
  ("namespace", res.isNamespacePkg), ("init", res.hasInit),
  ("stub", res.isStub), ("stubPackage", res.isStubPkg),
  ("native", res.isNative), ("type", kindName res.kind),
  ("stdlib", mark res.isStandard), ("localTypings", mark res.isLocalTypings),
  ("search", res.searchPath), ("package", res.pkg),
  ("pyTyped", res.marker.map fun (path, isPartial) => .array #[path, isPartial]),
  ("uris", res.resolved.map modUri), ("implicit", submodules res.implicit), ("filtered", submodules res.filtered),
  ("nonStub", nonStub)]

def fileReports (reports : List FileReport) : Datum :=
 (sortedBy (·.path) reports).map fun report =>
  Datum.array #[report.path, .ofOption (report.ver.map .int), diags report.diags.toArray]

def progFile (prog : Prog) (file : ProgFile) : Datum :=
 let origin := prog.origin file.path
 .named "uri module tracked open thirdParty pyTyped chained imports importedBy" [file.path,
  prog.places.modName file.path, file.isTracked, file.isOpen, origin.isThirdParty, origin.isTyped, origin.chained,
  sorted file.imports, sorted file.importedBy]

def typedNames (names : Array (Node × String?)) : Datum :=
 names.map fun (name, ty) => Datum.array #[name.start, name.nameVal, .ofOption ty]

def fileRange (place : FileRange) := place.path ++ " " ++ place.range.print

def usesReport (hit : Refs) : Datum :=
 .named "at global mode names" [sorted (hit.places.map fileRange), hit.isGlobal, match hit.mode with
  | .none => "none"
  | .singleFile => "singleFileMode"
  | .multiFile => "multiFileMode", sorted hit.names]

def rangeOfNumbers (vals : Array Datum) : LineRange :=
 let number idx := ((vals[idx]?).bind Datum.asInt?).getD 0
 ⟨⟨number 0, number 1⟩, ⟨number 2, number 3⟩⟩

structure ProgState where
 prog : Prog
 resolved : ByName ImportRes := []

def progStep (state : ProgState) (step : Datum) : ProgState × Datum :=
 let arg (idx : Nat) := (step.items[idx]?).getD .null
 let str idx := (arg idx).asStr?.getD ""
 let flag idx := (arg idx).asBool?.getD false
 let range := rangeOfNumbers (step.items.extract 2 6)
 let strings idx := (arg idx).items.toList.filterMap Datum.asStr?
 let prog := state.prog
 let places := prog.project.places
 let answer val := (state, val)
 let become (prog : Prog) (val : Datum := .null) := ({state with prog}, val)
 let reporting res := become res.2 (fileReports res.1)
 let pos := ((arg 2).asInt?.getD 0).toNat
 let placing res := become res.2 (if res.1.isEmpty then .null else res.1.map fileRange)
 let name := .ofString (str 2)
 let path := str 1
 match str 0 with
 | "resolve" =>
  let res := places.resolve path name
  let key := (if 0 < name.leadingDots then path else "") ++ " " ++ res.name
  ({state with resolved := (state.resolved.filter (·.1 != key)) ++ [(key, res)]},
   importFields res (res.nonStub.map (importFields · none)))
 | "module" =>
  let hit := places.modOf path (flag 2) (flag 3)
  answer (.array #[hit.name, kindName hit.kind, hit.isStandard, hit.isLocalTypings, hit.isTyped])
 | "complete" => answer ((sortedBy (·.1) (places.suggestions path name)).map fun (name, path) => [name, path])
 | "stubSources" => answer (places.stubSrcs (state.resolved.map (·.2)) path)
 | "roots" => answer places.roots
 | "isStdlib" => answer (places.isStandardMod path)
 | "track" => reporting (prog.track (strings 1))
 | "open" =>
  let opts := arg 4
  become (prog.openFile path ((arg 2).asInt?.getD 0) (str 3)
   {isTracked := opts.flag "tracked", isCell := opts.flag "notebook", chained := opts.str? "chained"})
 | "close" => reporting (prog.close path)
 | "write" => become (prog.write path (str 2))
 | "delete" => become (prog.delete path)
 | "touch" => become (prog.touch [path] (flag 2))
 | "dirty" => become (prog.touchAll (flag 1))
 | "invalidate" => become prog.refresh
 | "allow" => become (prog.allow (strings 1))
 | "analyze" => become prog.analyze
 | "chain" => match prog.chain path (arg 2).asStr? with
  | (some path, prog) => become prog
    (.failure "Error" ("Debug Failure. Found a cycle in implicit imports files for " ++ path))
  | (none, prog) => become prog
 | "diags" => reporting (prog.reports (flag 1))
 | "check" =>
  let (hit, prog) := prog.check path
  become prog (diags hit.toArray)
 | "range" => answer (diags (prog.diagsIn path range).toArray)
 | "text" => answer (.ofOption (prog.textIn? path range))
 | "files" => answer (((sortedBy (·.path) prog.files).filter (!prog.isLib ·.path)).map (progFile prog))
 | "counts" => answer prog.counts
 | "types" =>
  let (hit, prog) := prog.tys path
  become prog (.ofOption (hit.map typedNames))
 | "definition" =>
  let filter := match str 3 with
   | "PreferStubs" => .stubs
   | "PreferSource" => .srcs
   | _ => .all
  placing (prog.defs path pos filter)
 | "typeDefinition" => placing (prog.tyDefs path pos)
 | "references" =>
  let (hit, prog) := prog.refs? path pos (flag 3)
  become prog (.ofOption (hit.map usesReport))
 | "stub" =>
  let (hit, prog) := prog.stubs path (flag 2) (str 3)
  become prog ((sortedBy (·.1) hit).map fun (path, text) => [path, text])
 | name => answer (.failure "Error" ("unknown step " ++ name))

def progSteps (prog : Prog) (steps : Array Datum) :=
 (steps.foldl (fun (state, answers) step =>
  let (state, answer) := progStep state step
  (state, answers.push answer)) (({prog} : ProgState), #[])).2

end TypeChecker.Report
