import TypeChecker.Tree.Node

/-! What encloses a node: suites, classes, functions, scopes and annotations. -/

namespace TypeChecker
namespace Node

def maxHeight := 1000000

def preorderIn : Nat -> Nodes -> Array Node -> Array Node
 | 0, _, hit | _, [], hit => hit
 | count + 1, node :: rest, hit => preorderIn count (node.kids ++ rest) (hit.push node)

def maxCount := 1 <<< 20
def preorder (tree : Node) := preorderIn maxCount [tree] #[]

def anyIn (test : Node -> Bool) : Nat -> Nodes -> Bool
 | 0, _ | _, [] => false
 | count + 1, node :: rest => test node || anyIn test count (node.kids ++ rest)

def any (tree : Node) (test : Node -> Bool) := anyIn test maxCount [tree]

end Node

structure Anc where
 blocks : Array (Array Node?) := #[]
 added : Std.HashMap Nat Node := {}

namespace Anc

def blockSize := 1 <<< 20
def firstId (block : Nat) := block * blockSize
def blockOf (id : Nat) := id / blockSize

variable (anc : Anc)
def parentOf? (id : Nat) :=
 if let some parent := (anc.blocks.getD (blockOf id) #[])[id % blockSize]? then parent else anc.added[id]?

variable (node : Node) (test stops : Node -> Bool) (tree : Node) (nextId : Nat)
def parent? := anc.parentOf? node.id
def users := if let .augmented _ _ _ dest := node.kind then dest :: node.kids else node.kids

def blockOfTree (count : Nat) : Array Node? :=
 tree.preorder.foldl (fun parents node =>
  (users node).foldl (fun parents child => parents.setIfInBounds (child.id % blockSize) node) parents)
  (Array.replicate count none)

def addTree : Anc :=
 let block := blockOf tree.id
 let blocks :=
  if anc.blocks.size <= block then anc.blocks ++ Array.replicate (block + 1 - anc.blocks.size) #[] else anc.blocks
 {anc with blocks := blocks.setIfInBounds block (blockOfTree tree (nextId - firstId block))}

def addBranch (parent tree : Node) :=
 let added := tree.preorder.foldl (fun added node =>
  (users node).foldl (fun added child => added.insert child.id node) added)
  (anc.added.insert tree.id parent)
 {anc with added}

def ofTree := ({} : Anc).addTree tree nextId

def ancestorsIn (anc : Anc) : Nat -> Node? -> Nodes
 | 0, _ | _, none => []
 | fuel + 1, some node => node :: ancestorsIn anc fuel (anc.parent? node)

def ancestors := anc.ancestorsIn Node.maxHeight node
def properAncestors := anc.ancestorsIn Node.maxHeight (anc.parent? node)

def nearest? : Nodes -> Node?
 | [] => none
 | node :: rest => if test node then node else if stops node then none else nearest? rest

def steps (way : Nodes) := (none :: way.map some).zip way

end Anc
namespace Node
variable (node : Node)
def isMod := node.kind matches .modNode _
def isCls := node.kind matches .clsDef _
def isFn := node.kind matches .fnDef _
def isLambda := node.kind matches .lambda ..
def isSuite := node.kind matches .suite ..
def isParameter := node.kind matches .par _
def isName := node.kind matches .name ..
def isCompr := node.kind matches .compr ..
def isTyParList := node.kind matches .tyParList _
def fnParts? : Option (FnParts Node) := if let .fnDef parts := node.kind then parts else none
def clsParts? : Option (ClsParts Node) := if let .clsDef parts := node.kind then parts else none
def parParts? : Option (ParParts Node) := if let .par parts := node.kind then parts else none

def decos :=
 match node.kind with
 | .fnDef parts | .clsDef parts => parts.decos
 | _ => []

def isAmong (node : Node?) (nodes : Nodes) := node.any nodes.contains

def stmts (node : Node) :=
 match node.kind with
 | .modNode stmts | .suite stmts _ | .stmtList _ stmts => stmts
 | _ => []

end Node
namespace Anc
variable (anc : Anc)

/-! Enclosing blocks. -/

def never (_ : Node) := false

variable (node : Node)
def depth := (anc.ancestors node).length
def enclSuite? := nearest? Node.isSuite never (anc.properAncestors node)

def enclCls? (stopAtFn : Bool := false) :=
 nearest? Node.isCls (fun hit => hit.isMod || (stopAtFn && hit.isFn)) (anc.properAncestors node)

def enclClsOrMod? := nearest? (fun hit => hit.isCls || hit.isMod) never (anc.properAncestors node)

def fnOn? : List (Node? × Node) -> Node?
 | [] => none
 | (below, node) :: rest =>
  if node.isFn && !Node.isAmong below node.decos then node
  else if node.isCls then none
  else fnOn? rest

def enclFn? := fnOn? (steps (anc.properAncestors node))
def enclLambda? := nearest? Node.isLambda Node.isSuite (anc.properAncestors node)
def enclClsOrFn? := nearest? (fun hit => hit.isCls || hit.isFn) never (anc.properAncestors node)

def enclClsOrFnSuite? :=
 (anc.properAncestors node).find? fun hit =>
  hit.isSuite && (anc.parent? hit).any fun parent => parent.isFn || parent.isCls

def enclSuiteOrMod? := nearest? (fun hit => hit.isSuite || hit.isMod) Node.isLambda (anc.properAncestors node)
def enclPar? := nearest? Node.isParameter Node.isFn (anc.ancestors node)
def nearestOfKind? (test : Node -> Bool) := (anc.ancestors node).find? test
def isWithin (node box : Node) := (anc.ancestors node).contains box
def modOf? := anc.nearestOfKind? node Node.isMod
def isInLoop := (anc.ancestors node).any (·.kind matches .forStmt _ | .whileStmt ..)

def qualifiedName (modName clsName : String) :=
 let outer := ((anc.properAncestors node).takeWhile (!·.isMod)).filterMap (·.clsParts?.map (·.name.nameVal))
 ".".intercalate ((modName :: outer.reverse) ++ [clsName])

/-! Scopes. -/

structure ScopeSearch where
 (below twoBelow : Node? := none)
 (viaParName viaParDflt : Bool := false)

variable (hasScope : Node -> Bool) (tgt : Node) (search : ScopeSearch) (requiresQuotes : Bool) (node : Node)
def ScopeSearch.scopeAt? : Option (Node × Bool) :=
 let ifScope scope viaTyPars := if hasScope scope then some (scope, viaTyPars) else none
 let ownScope := ifScope node false
 let tyParScope tyPars := tyPars.bind (ifScope · true)
 match node.kind with
 | .tyParList _ => some (node, true)
 | .fnDef parts =>
  if search.below.isNone || Node.isAmong search.below parts.decos || search.below == parts.name then none
  else if Node.isAmong search.below parts.pars then
   if search.viaParDflt then none
   else (if search.viaParName then ownScope else none) <|> tyParScope parts.tyPars
  else (if search.below == parts.suite then ownScope else none) <|> tyParScope parts.tyPars
 | .lambda pars expr =>
  if Node.isAmong search.below pars then
   if search.viaParName then ownScope else none
  else if search.below.isNone || search.below == expr then ownScope
  else none
 | .clsDef parts =>
  if search.below.isNone || Node.isAmong search.below parts.decos then none
  else (if search.below == parts.suite then ownScope else none) <|> tyParScope parts.tyPars
 | .compr _ forIfs _ _ =>
  let isFirstIterable := match forIfs with
   | first :: _ => search.below == first &&
    if let .comprFor _ _ iterable := first.kind then search.twoBelow == iterable else false
   | [] => false
  if isFirstIterable then none else ownScope
 | .tyAlias _ _ tyPars expr => if search.below == expr then tyPars.bind (ifScope · false) else none
 | .modNode _ => ownScope
 | _ => none

def ScopeSearch.step :=
 let search := if let .par parts := node.kind then
   if search.below == parts.name then {search with viaParName := true}
   else if search.below == parts.dfltVal then {search with viaParDflt := true}
   else search
  else search
 search

def evaluationScopeOn? (search : ScopeSearch) : Nodes -> Option (Node × Bool)
 | [] => none
 | node :: rest =>
  let search := search.step node
  if let some scope := search.scopeAt? hasScope node then some scope
  else evaluationScopeOn? {search with below := node, twoBelow := search.below} rest

def evalScope? := evaluationScopeOn? hasScope {} (anc.ancestors node)

def searchScopes? (test : Node -> Option Node?) : Nat -> Node? -> Node?
 | 0, _ | _, none => none
 | fuel + 1, some node =>
  (anc.evalScope? hasScope node).bind fun (scope, _) =>
   if let some answer := test scope then answer else searchScopes? test fuel (anc.parent? scope)

def execScope? :=
 anc.searchScopes? hasScope (fun scope =>
  if scope.isTyParList || scope.isCls || scope.isCompr then none else some scope) Node.maxHeight node

def enclFnScope? :=
 anc.searchScopes? hasScope (fun scope =>
  if scope.isFn then some scope
  else if scope.isCls then some none else none) Node.maxHeight node

def assignScopeIn : Nat -> Bool -> Node? -> Node?
 | 0, _, _ | _, _, none => none
 | fuel + 1, sawCompr, some node =>
  (anc.evalScope? hasScope node).bind fun (scope, _) => match scope.kind with
   | .fnDef _ | .lambda .. | .modNode _ => some scope
   | .clsDef _ => if sawCompr then none else some scope
   | .compr .. => assignScopeIn fuel true (anc.parent? scope)
   | _ => none

def assignScope? := anc.assignScopeIn hasScope Node.maxHeight false node

def tyVarScopeOn? : List (Node? × Node) -> Node?
 | [] => none
 | (below, node) :: rest =>
  match node.kind with
  | .fnDef _ | .clsDef _ => if Node.isAmong below node.decos then tyVarScopeOn? rest else node
  | .tyAlias .. => node
  | _ => tyVarScopeOn? rest

def tyVarScope? := tyVarScopeOn? (steps (anc.ancestors node))

/-! Annotations. -/

def annotOf? : Node? :=
 match (steps (anc.ancestors node)).drop 1 |>.find? fun (_, hit) => hit.kind matches .annot .. with
 | some (below, hit) => if let .annot _ hint := hit.kind then if below == hint then hit else none else none
 | none => none

def parentAnnotOn? : List (Node? × Node) -> Node?
 | [] => none
 | (below, node) :: rest =>
  let ifAny holds := if holds then below else none
  match node.kind with
  | .fnDef parts => ifAny (below == parts.retHint)
  | .par parts => ifAny (below == parts.hint || below == parts.hintCmt)
  | .assignment _ _ cmt _ => ifAny (below == cmt)
  | .annot _ hint => ifAny (below == hint)
  | .fnTyCmt _ pars retHint => ifAny (below == retHint || Node.isAmong below pars)
  | _ => parentAnnotOn? rest

def parentAnnot? := parentAnnotOn? (steps (anc.ancestors node))
def endsAnnotSearch := node.isLambda || node.isFn || node.isCls || node.isMod

def stepOn (test : Node? -> Node -> Bool) : List (Node? × Node) -> Bool
 | [] => false
 | (below, node) :: rest => test below node || (!endsAnnotSearch node && stepOn test rest)

def isInDfltVal :=
 stepOn (fun below node => node.parParts?.any (below == ·.dfltVal)) (steps (anc.ancestors node))

variable (below : Node?)
def isCmtStep (node : Node) :=
 match node.kind with
 | .fnDef parts => below == parts.hintCmt
 | .assignment _ _ cmt _ => below == cmt
 | _ => false

def isHintStep (node : Node) :=
 match node.kind with
 | .par parts => below == parts.hint || below == parts.hintCmt
 | .fnDef parts => below == parts.retHint
 | .annot _ hint => below == hint
 | _ => false

def hintOn : Bool -> List (Node? × Node) -> Bool
 | _, [] => false
 | isQuoted, (below, node) :: rest =>
  if isHintStep below node then isQuoted || !requiresQuotes
  else if isCmtStep below node then true
  else if endsAnnotSearch node then false
  else
   let quotes := if let .strList _ fwdRef _ := node.kind then below == fwdRef else false
   hintOn (isQuoted || quotes) rest

def isInHint (node : Node) (requiresQuotes : Bool) := hintOn requiresQuotes false (steps (anc.ancestors node))
def isInAnnotCmt := stepOn isCmtStep (steps (anc.ancestors node))

def isInAssertTest :=
 ((steps (anc.ancestors node)).find? fun (_, hit) => hit.kind matches .assertStmt ..).any fun (below, hit) =>
  if let .assertStmt test _ := hit.kind then below == test else false

/-! Targets and names. -/

def parentKind? := (anc.parent? node).map (·.kind)

def isFinalAllowed : Bool :=
 match tgt.kind with
 | .name .. => true
 | .memAccess lhs _ =>
  lhs.isName && (anc.enclCls? tgt).isSome && (anc.enclFn? tgt).any (·.fnParts?.any (·.name.nameVal == "__init__"))
 | _ => false

def isReqAllowed := (anc.enclCls? tgt true).isSome

def asLastName :=
 if let some parent := anc.parent? node then
  if let .memAccess lhs _ := parent.kind then if lhs == node then node else parent else node
 else node

def isFirstOfDotted := if let some (.memAccess lhs _) := anc.parentKind? node then lhs == node else true

def isLastOfDotted : Bool :=
 if let some parent := anc.parent? node then if let .memAccess lhs _ := parent.kind then
   let isDotted := lhs.kind matches .name .. | .memAccess ..
   isDotted && lhs != node && !((anc.parent? parent).any (·.kind matches .memAccess ..))
  else true
 else true

def isLastOfModName :=
 if let some (.modName _ parts _) := anc.parentKind? node then parts.getLast? == node && !parts.isEmpty else false

def appliedBy? (headOf : Node -> Node?) (node : Node) := do
 let parent <- anc.parent? node
 if headOf parent == node then return parent
 let .memAccess _ mem := parent.kind | none
 if mem == node then
  let outer <- anc.parent? parent
  if headOf outer == parent then return outer
 none

def callOfName? := anc.appliedBy? (fun hit => if let .call lhs _ _ := hit.kind then lhs else none) node
def decoOfName? := anc.appliedBy? (fun hit => if let .deco expr := hit.kind then expr else none) node

def writtenOn : List (Node? × Node) -> Bool
 | [] => false
 | (below, node) :: rest =>
  match node.kind with
  | .assignment lhs _ _ _ | .augmented lhs _ _ _ => below == lhs
  | .walrus name _ _ _ => below == name
  | .delStmt _ => true
  | .forStmt parts => below == parts.tgt
  | .importAs modName asName =>
   below == asName || if let .modName _ (first :: _) _ := modName.kind then below == first else false
  | .importFromAs name asName => below == asName || (asName.isNone && below == name)
  | .memAccess _ mem => if below == mem then writtenOn rest else false
  | .exceptClause parts => below == parts.name
  | .withStmt parts => Node.isAmong below parts.items
  | .comprFor _ tgt _ => below == tgt
  | .annot _ hint => if below == hint then false else writtenOn rest
  | .fnDef _ | .clsDef _ | .modNode _ => false
  | _ => writtenOn rest

def isWritten := writtenOn ((steps (anc.ancestors node)).drop 1)

/-! Imports. -/

def isModNameUnder (test : Node -> Bool) :=
 if let some hit := anc.nearestOfKind? node (·.kind matches .modName ..) then (anc.parent? hit).any test
 else false

def isImportModName := anc.isModNameUnder node (·.kind matches .importAs ..)
def isFromImportModName := anc.isModNameUnder node (·.kind matches .importFrom _)
def isImportAlias := if let some (.importAs _ asName) := anc.parentKind? node then asName == node else false
def isFromImportName := if let some (.importFromAs name _) := anc.parentKind? node then name == node else false

def isFromImportAlias := if let some (.importFromAs _ asName) := anc.parentKind? node then asName == node else false

end Anc
end TypeChecker
