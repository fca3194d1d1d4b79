import TypeChecker.Parser.Statement
import TypeChecker.Binding.Alias

/-! The import statements at the top level of a source, in their order, with the groups and the orders in
which they and the names that they import are written. -/

namespace TypeChecker

structure TextEdit where
 range : LineRange
 repl : String

inductive ImportGroup where
 | builtIn | thirdParty | local | localRelative
 deriving DecidableEq

namespace ImportGroup

def all := [builtIn, thirdParty, .local, localRelative]

def name : ImportGroup -> String
 | .builtIn => "BuiltIn" | .thirdParty => "ThirdParty" | .local => "Local"
 | .localRelative => "LocalRelative"

def ofName? (name : String) := all.find? (·.name == name)
def isBefore (lhs rhs : ImportGroup) : Bool := lhs.ctorIdx < rhs.ctorIdx

def ofKind (kind : ImportKind) (isLocalTypings : Bool) : ImportGroup :=
 if isLocalTypings || kind == .thirdParty then .thirdParty
 else if kind == .builtIn then .builtIn
 else .local

end ImportGroup

structure ImportStmt where
 node : Node
 part : Node?
 res : ImportRes?
 tgt : Option ModUri
 modName : String
 followsOther : Bool

namespace ImportStmt
variable (stmt : ImportStmt)
def group : ImportGroup :=
 match stmt.res with
 | none => .local
 | some res =>
  if res.kind == .builtIn then .builtIn
  else if res.kind == .thirdParty || res.isLocalTypings then .thirdParty
  else if res.isRelative then .localRelative
  else .local

def isFrom := stmt.node.kind matches .importFrom _

def isBefore (lhs rhs : ImportStmt) :=
 lhs.group.isBefore rhs.group || lhs.group == rhs.group && unitsLess lhs.modName rhs.modName

def fromParts? : Option (ImportFromParts Node) := if let .importFrom parts := stmt.node.kind then parts else none

end ImportStmt

structure ImportStmts where
 ordered : List ImportStmt := []
 byFile : ByName ImportStmt := []
 implicit : Option (ByName Node) := none

variable (node : Node)
def Node.importNames :=
 match node.kind with
 | .importStmt list => list
 | .importFrom parts => parts.imports
 | _ => []

def Node.fromNameParts :=
 match node.kind with
 | .importFromAs name asName => (name.nameVal, asName.map nameVal)
 | _ => ("", none)

def Node.importAlias? := if let .importAs _ asName := node.kind then asName.map nameVal else none

namespace ImportStmts

def tgtOf (res : ImportRes?) := (res.filter (·.isHit)).bind (·.resolved.back?)

variable (tree : Node) (importOf : Node -> ImportRes?) (withImplicit : Bool)
def addPart (node : Node) (followsOther : Bool) (hit : ImportStmts) (part : Node) : ImportStmts :=
 match part.kind with
 | .importAs modName _ =>
  let res := importOf modName
  let tgt := tgtOf res
  let stmt := {node, part, res, tgt, followsOther, modName := Binding.formatModName modName}
  {hit with
  ordered := hit.ordered ++ [stmt]
  byFile := if let some path := tgt.bind ModUri.path? then
    if hit.byFile.any (·.1 == path) then hit.byFile else hit.byFile ++ [(path, stmt)]
   else hit.byFile}
 | _ => hit

def autoOf (res : ImportRes) (imports : Nodes) :=
 res.implicit.filterMap fun item =>
  (imports.find? (·.fromNameParts.1 == item.name)).map fun node => (item.uri.path?.getD "<empty>", node)

def addFrom (node : Node) (parts : ImportFromParts Node)
  (followsOther withImplicit : Bool) (hit : ImportStmts) : ImportStmts :=
 let res := importOf parts.modName
 let tgt := tgtOf res
 let stmt := {node, part := none, res, tgt, followsOther, modName := Binding.formatModName parts.modName}
 {ordered := hit.ordered ++ [stmt]
  implicit := match withImplicit, res with
   | true, some res =>
    some ((autoOf res parts.imports).foldl (fun ents (path, node) =>
     setEnt ents path node) (hit.implicit.getD []))
   | _, _ => hit.implicit
  byFile := if let some path := tgt.bind ModUri.path? then
    let keeps := (hit.byFile.lookup path).any fun earlier =>
     earlier.isFrom && Text.lengthOf earlier.modName <= Text.lengthOf stmt.modName
    if keeps then hit.byFile else setEnt hit.byFile path stmt
   else hit.byFile}

def collect : Nodes -> Bool -> Bool -> ImportStmts -> ImportStmts
 | [], _, _, hit => hit
 | node :: rest, hasImport, afterOther, hit =>
  match node.kind with
  | .importStmt parts => collect rest true false (parts.foldl (addPart importOf node afterOther) hit)
  | .importFrom parts => collect rest true false (addFrom importOf node parts afterOther withImplicit hit)
  | _ => collect rest hasImport hasImport hit

/-- The statements of a module, with those that share a line apart. -/
def simple := tree.stmts.flatMap fun stmt =>
 match stmt.kind with
 | .stmtList _ stmts => stmts
 | _ => [stmt]

def ofMod := collect importOf withImplicit (simple tree) false false {}

end ImportStmts

/-! The order of imported names. -/

namespace ImportName
variable (name : String)
def rank := if Name.isConstant name then 0 else if Name.isTyAlias name then 1 else 2
def sortKey := name.map fun char => if char == '_' then '=' else char

variable (lhs rhs : String)
def compare := (Ord.compare (rank lhs) (rank rhs)).then (compareUnits (sortKey lhs) (sortKey rhs))
def isAtOrBefore := compare lhs rhs != .gt

end ImportName
namespace ImportDeletion

def runsFrom (first last : Nat) : List Nat -> List (Nat × Nat)
 | [] => [(first, last)]
 | idx :: rest =>
  if last == idx then runsFrom first last rest
  else if last + 1 == idx then runsFrom first idx rest
  else (first, last) :: runsFrom idx idx rest

def runs : List Nat -> List (Nat × Nat)
 | [] => []
 | first :: rest => runsFrom first first rest

variable (tokens : Array Token)
def tailSpans (prev first last : Node) : List Span :=
 let whole := [.ofBounds prev.stop last.stop]
 let cmts := ((TokenTable.idxAt? tokens first.start).bind (tokens[·]?)).elim #[] (·.cmts)
 match cmts.back? with
 | none => whole
 | some cmt =>
  match (TokenTable.idxAfter? tokens prev.stop (·.cat == .comma)).toOption.join.bind (tokens[·]?) with
  | none => whole
  | some comma => [.ofBounds prev.stop comma.stop, .ofBounds cmt.span.stop last.stop]

def runSpans (names : Array Node) (first last : Nat) : List Span :=
 match names[first]?, names[last]? with
 | some firstNode, some lastNode =>
  if first == 0 && names.size == last + 1 then [Span.ofBounds firstNode.start lastNode.stop]
  else if last + 1 == names.size then
   names[first - 1]?.elim [] (tailSpans tokens · firstNode lastNode)
  else names[last + 1]?.elim [] fun next => [.ofBounds firstNode.start next.start]
 | _, _ => []

def spans (names : Nodes) (indexes : List Nat) : List Span :=
 (runs indexes).flatMap fun (first, last) => runSpans tokens names.toArray first last

end ImportDeletion
namespace ImportSort

def maxLineLength := 88

def withAlias (name : String) : String? -> String
 | some asName => name ++ " as " ++ asName
 | none => name

variable (tokenized : TokenizedText)
def fromText (parts : ImportFromParts Node) (modName : String) :=
 let names := (parts.imports.map Node.fromNameParts).mergeSort fun lhs rhs => !unitsLess rhs.1 lhs.1
 let syms := names.map fun (name, asName) => withAlias name asName
 let start := "from " ++ modName ++ " import "
 let joined := ", ".intercalate syms
 if parts.isWildcard then start ++ "*"
 else if Text.lengthOf start + Text.lengthOf joined <= maxLineLength then start ++ joined
 else
  start ++ "(" ++ tokenized.endOfLine ++
   String.join (syms.map (tokenized.tab ++ · ++ "," ++ tokenized.endOfLine)) ++ ")"

def stmtText (stmt : ImportStmt) :=
 if let some parts := stmt.fromParts? then fromText tokenized parts stmt.modName
 else "import " ++ withAlias stmt.modName (stmt.part.bind Node.importAlias?)

def sortedText : List ImportStmt -> String
 | [] => ""
 | [stmt] => stmtText tokenized stmt
 | stmt :: next :: rest =>
  stmtText tokenized stmt ++ tokenized.endOfLine ++
   (if stmt.group == next.group then "" else tokenized.endOfLine) ++
   sortedText (next :: rest)

def runs : List ImportStmt -> List (List ImportStmt)
 | [] => []
 | stmt :: rest =>
  match runs rest with
  | [] => [[stmt]]
  | run :: others => if run.head?.any (·.followsOther) then [stmt] :: run :: others else (stmt :: run) :: others

def runRange (lines : LineTable) (run : List ImportStmt) : LineRange :=
 match run.head?, run.getLast? with
 | some first, some last => ⟨lines.posOf first.node.start, lines.posOf last.node.stop⟩
 | _, _ => default

def edits (src : ParsedSrc) (stmts : List ImportStmt) : List TextEdit :=
 let sorted := stmts.mergeSort fun lhs rhs => !rhs.isBefore lhs
 match runs stmts with
 | [] => []
 | first :: others =>
  ⟨runRange src.lines first, sortedText src.tokenized sorted⟩ :: others.map (⟨runRange src.lines ·, ""⟩)

end ImportSort

/-! ## Import Insert -/

structure NewName where
 (name asName : String? := none)

structure NewMod where
 name : String
 nameInFrom : String? := none

structure NewImport extends NewName where
 src : NewMod
 group : ImportGroup

def groupByKey {α : Type} (key : α -> String) (items : List α) :=
 items.foldl (fun groups item => setEnt groups (key item) ((groups.lookup (key item)).getD [] ++ [item])) []

namespace NewName
variable (new : NewName)
def name? := new.name.filter (· != "")
def asName? := new.asName.filter (· != "")

end NewName

/-! Names added to a statement. -/

namespace ImportAddition

structure Edit where
 pos : Pos
 (name repl : String)

def prior? (name : String) (imports : Nodes) :=
 (imports.takeWhile (ImportName.isAtOrBefore ·.fromNameParts.1 name)).getLast?

variable (src : ParsedSrc)
def ownLineIndent? (node : Node) : Nodes -> String?
 | [] => none
 | first :: rest =>
  let pos node := src.lines.posOf node.start
  let firstPos := pos first
  if (pos node).line < firstPos.line && rest.head?.all (fun second => firstPos.line < (pos second).line) then
   let start := (src.lines.getD firstPos.line.toNat default).start
   let indent := src.text.slice start (start + firstPos.char.toNat)
   if indent.all isBlank then Text.toString indent else none
  else none

def editFor (node : Node) (imports : Nodes) (name : String) (asName : String?) : Edit :=
 let prior := prior? name imports
 let off := match prior, imports.head? with
  | some prior, _ => prior.stop
  | none, some first => first.start
  | none, none => node.stop
 let text := ImportSort.withAlias name asName
 let endOfLine := src.tokenized.endOfLine
 let repl := match ownLineIndent? src node imports, prior.isSome with
  | some indent, true => "," ++ endOfLine ++ indent ++ text
  | some indent, false => text ++ "," ++ endOfLine ++ indent
  | none, true => ", " ++ text
  | none, false => text ++ ", "
 {pos := src.lines.posOf off, name, repl}

def rangeKey (pos : Pos) := LineRange.print ⟨pos, pos⟩

def edits (stmt : ImportStmt) (names : List NewName) : List TextEdit :=
 match stmt.fromParts? with
 | none => []
 | some parts =>
  if parts.isWildcard then []
  else
   let goal := names.filterMap fun new => new.name?.bind fun name =>
    if parts.imports.any (·.fromNameParts == (name, new.asName)) then none
    else some (editFor src stmt.node parts.imports name new.asName?)
   (groupByKey (rangeKey ·.pos) goal).filterMap fun (_, group) =>
    group.head?.map fun first =>
     {range := ⟨first.pos, first.pos⟩
      repl := String.join ((group.mergeSort fun lhs rhs =>
       ImportName.isAtOrBefore lhs.name rhs.name).map (·.repl))}

end ImportAddition

/-! New statements. -/

namespace ImportInsertion

structure Edit where
 pos : Pos
 before := ""
 stmt : String
 after := ""
 group : ImportGroup

structure Place where
 beside : ImportStmt
 isBefore := true
 extraLine := false

def placeAmong (group : ImportGroup) (modName : String) : List ImportStmt -> ImportGroup -> Place -> Place
 | [], _, place => place
 | stmt :: rest, prev, place =>
  let cur := if stmt.res.isSome then stmt.group else prev
  if group.isBefore cur then {place with extraLine := !place.isBefore && prev.isBefore group}
  else if group == cur && unitsLess modName stmt.modName then {place with isBefore := true, beside := stmt}
  else if stmt.followsOther then {place with extraLine := prev.isBefore group}
  else
   placeAmong group modName rest cur
    {beside := stmt, isBefore := !place.isBefore && group.isBefore prev && group == cur
     extraLine := rest.isEmpty && cur.isBefore group}

def isPreamble (stmt : Node) :=
 match stmt.kind with
 | .stmtList _ [single] => match single.kind with
  | .strList .. => true
  | .assignment lhs _ _ _ => lhs.nameVal?.any Name.isDunder
  | _ => false
 | _ => false

def firstPlace (lines : LineTable) : Nodes -> Pos × Bool -> Pos × Bool
 | [], hit => hit
 | stmt :: rest, _ =>
  if isPreamble stmt then firstPlace lines rest (lines.posOf stmt.stop, true) else (lines.posOf stmt.start, false)

variable (src : ParsedSrc) (stmts : List ImportStmt) (tgt : NewMod)
def editFor (stmt modName : String) (group : ImportGroup) (invocation : Pos) : Edit :=
 let endOfLine := src.tokenized.endOfLine
 let off := match LineTable.offsetOf? src.lines invocation with
  | .ok off => off
  | .error _ => none
 let first? := stmts.head?.filter fun first => off.any ((first.node.start : Int) < ·)
 if let some first := first? then
  let place := placeAmong group modName stmts .builtIn {beside := first}
  let node := place.beside.node
  let extra := if place.extraLine then endOfLine else ""
  if place.isBefore then {pos := src.lines.posOf node.start, before := extra, stmt, after := endOfLine, group}
  else {pos := src.lines.posOf node.stop, before := endOfLine ++ extra, stmt, group}
 else
  let (pos, follows) := firstPlace src.lines src.tree.stmts (⟨0, 0⟩, false)
  {pos, before := if follows then endOfLine else "", stmt
   after := endOfLine ++ endOfLine ++ (if follows then "" else endOfLine), group}

def nameTexts (names : List NewName) :=
 let texts := names.map fun new =>
  let name := new.name?.getD tgt.name
  (name, ImportSort.withAlias name new.asName?)
 ((texts.mergeSort fun lhs rhs => ImportName.isAtOrBefore lhs.1 rhs.1).map (·.2)).foldl
  (fun hit text => if hit.contains text then hit else hit ++ [text]) []

variable (group : ImportGroup) (names : List NewName)
def editsFor (invocation : Pos) : List Edit :=
 let names := if names.isEmpty then [{}] else names
 let parts := names.filter (·.name?.isSome)
 let edit start names :=
  if names.isEmpty then []
  else [editFor src stmts (start ++ ", ".intercalate (nameTexts tgt names)) tgt.name group invocation]
 edit "import " (names.filter (·.name?.isNone)) ++ edit ("from " ++ tgt.nameInFrom.getD tgt.name ++ " import ") parts

def isBeforeText (lhs rhs : String) :=
 let isImport text := text.startsWith "import"
 if isImport lhs == isImport rhs then unitsLess lhs rhs else isImport lhs

def merge (edits : List Edit) : List TextEdit :=
 let range edit := ⟨edit.pos, edit.pos⟩
 match edits with
 | [] => []
 | [edit] => [⟨range edit, edit.before ++ edit.stmt ++ edit.after⟩]
 | edits =>
  let key edit := edit.group.ctorIdx.repr ++ " " ++ (range edit).print
  let groups := (groupByKey key edits).mergeSort fun lhs rhs => !unitsLess rhs.1 lhs.1
  groups.filterMap fun (_, group) => group.head?.map fun first =>
   let texts := (group.map (·.stmt)).mergeSort fun lhs rhs => !isBeforeText rhs lhs
   ⟨range first, first.before ++ src.tokenized.endOfLine.intercalate texts ++ first.after⟩

def edits (invocation : Pos) : List TextEdit := merge src (editsFor src stmts tgt group names invocation)

def editsForMany (news : List NewImport) (invocation : Pos) : List TextEdit :=
 let key new := new.src.name ++ "-" ++ new.src.nameInFrom.getD ""
 merge src ((groupByKey key news).flatMap fun (_, group) =>
  match group with
  | [] => []
  | first :: _ => editsFor src stmts first.src first.group (group.map (·.toNewName)) invocation)

end ImportInsertion
end TypeChecker
