import TypeChecker.Edit.ImportList

/-! Collecting edits of files. -/

namespace TypeChecker

structure FileEdit extends TextEdit where
 path : String

def FileEdit.isSameAs (lhs rhs : FileEdit) := lhs.path == rhs.path && lhs.range == rhs.range && lhs.repl == rhs.repl

structure EditSrc where
 parsed : ParsedSrc
 path : String
 anc : Anc

structure EditTracker where
 mergesOnlyDuplicates := true
 files : ByName (List FileEdit) := []
 removed : Nodes := []
 pending : Nodes := []

namespace EditTracker
variable (tracker : EditTracker) (node : Node) (path : String) (range : LineRange) (src : EditSrc)
def editsOf := (tracker.files.lookup path).getD []
def setEdits (edits : List FileEdit) := {tracker with files := setEnt tracker.files path edits}
def areNested (lhs rhs : LineRange) := lhs.containsRange rhs || rhs.containsRange lhs

variable (repl : String)
def takesUp (edit : FileEdit) :=
 let isSame := edit.repl == repl && areNested range edit.range
 edit.range.intersects range && (if tracker.mergesOnlyDuplicates then
   if repl == "" then edit.repl == "" else isSame
  else edit.repl == "" || isSame)

def dropEdits (edits dropped : List FileEdit) := edits.filter (!dropped.any ·.isSameAs)

def addEdit :=
 let edits := tracker.editsOf path
 let merged := edits.filter (tracker.takesUp range repl)
 let range := merged.foldl (fun range edit => range.extend edit.range) range
 let edit : FileEdit := {path, range, repl}
 tracker.setEdits path (dropEdits edits merged ++ [edit])

def addEdits (edits : List TextEdit) :=
 edits.foldl (fun tracker edit => tracker.addEdit path edit.range edit.repl) tracker

def addSpan (span : Span) (repl : String) :=
 if src.parsed.text.slice span.start span.stop == .ofString repl then tracker
 else tracker.addEdit src.path (src.parsed.lines.rangeOf span) repl

def isRemoved := tracker.removed.contains node

def withParts :=
 match node.kind with
 | .importAs modName asName =>
  let names := if let .modName _ names _ := modName.kind then names else []
  node :: modName :: names ++ asName.toList
 | .importFromAs name asName => node :: name :: asName.toList
 | _ => [node]

def markRemoved := {tracker with removed := tracker.removed ++ withParts node}

def deleteImport (name : Node) : EditTracker :=
 if let some stmt := src.anc.parent? name then
  let names := stmt.importNames
  let spans := ImportDeletion.spans src.parsed.tokenized.tokens names (names.idxOf? name).toList
  let tracker := spans.foldl (fun tracker span => tracker.addSpan src span "") tracker
  let tracker := tracker.markRemoved name
  let names := names.toArray
  if let some idx := ((List.range names.size).reverse.find? fun idx => (names[idx]?).any (!tracker.isRemoved ·)) then
   match names[idx]?, names[idx + 1]? with
   | some last, some next =>
    if idx + 2 < names.size then tracker.addSpan src (.ofBounds last.stop next.stop) "" else tracker
   | _, _ => tracker
  else tracker.addEdit src.path (StmtRange.ofNode src.parsed.tokenized stmt) ""
 else tracker

/-! Adding imports. -/

structure ImportUpdate where
 stmt : Node?
 origName : String

def deletionsIn := (tracker.editsOf path).filter fun edit => edit.range.intersects range && edit.repl == ""

def fromNodes? := if let .importFromAs name asName := node.kind then some (name, asName) else none

def renameInPlace? (tgt : NewMod) (name : NewName) (update : ImportUpdate) (edit : TextEdit) :=
 let before := update.origName.splitOn "."
 let after := tgt.name.splitOn "."
 let deletions := tracker.deletionsIn src.path edit.range
 if !RelativeName.haveSameParent before after then none
 else if deletions.isEmpty then tracker.addEdit src.path edit.range edit.repl
 else
  let oldName := before.getLast?.getD ""
  let newName := after.getLast?.getD ""
  let asName := if name.asName == some newName then some oldName else name.asName
  let names := update.stmt.elim [] Node.importNames
  ((names.find? (·.fromNameParts == (oldName, asName))).bind fromNodes?).map fun (nameNode, aliasNode) =>
   let kept := dropEdits (tracker.editsOf src.path) deletions
   let tracker := if tracker.files.any (·.1 == src.path) then tracker.setEdits src.path kept else tracker
   let tracker := {tracker with removed := tracker.removed.filter (some · != aliasNode )}
   tracker.addEdit src.path (src.parsed.lines.rangeOf nameNode) newName

variable (stmts : List ImportStmt)
def updateImport?
  (tgt : NewMod) (names : List NewName) (update : ImportUpdate) : Option EditTracker :=
 let goal stmt := stmt.isFrom && (some stmt.modName == tgt.nameInFrom || stmt.modName == tgt.name)
 if let some stmt := stmts.find? goal then
  if stmt.fromParts?.any (·.isWildcard) then none
  else
   let edits := ImportAddition.edits src.parsed stmt names
   if some stmt.node != update.stmt then tracker.addEdits src.path edits
   else match names, edits with
    | [name], [edit] => tracker.renameInPlace? src tgt name update edit
    | _, _ => none
 else none

def addImport (tgt : NewMod) (group : ImportGroup) (names : Option (List NewName))
  (update : Option ImportUpdate) :=
 let updated := match names, update with
  | some names, some update => tracker.updateImport? src stmts tgt names update
  | _, _ => none
 if let some tracker := updated then tracker
 else
  let invocation := src.parsed.lines.posOf src.parsed.tree.span.length
  tracker.addEdits src.path (ImportInsertion.edits src.parsed stmts tgt group (names.getD []) invocation)

/-! Taking nodes out. -/

variable (nodes : Nodes)
def removeNodes := {tracker with pending := tracker.pending ++ nodes}

def finishNodes :=
 let tracker := nodes.foldl markRemoved tracker
 {tracker with pending := tracker.pending.filter (!tracker.isRemoved ·)}

def removeImported (node : Node) : EditTracker :=
 let stmt? := (Node.at? src.parsed.tree node.start).bind fun hit =>
  (src.anc.ancestors hit).find? (·.kind matches .importStmt _ | .importFrom _)
 match node.isName, stmt? with
 | true, some stmt =>
  let names := stmt.importNames
  let hit := tracker.pending.filter fun node => names.any (node.span.overlapsSpan ·.span)
  if names.length == hit.length then
   (tracker.addEdit src.path (StmtRange.ofNode src.parsed.tokenized stmt) "").finishNodes hit
  else
   let indexes := (names.zipIdx.filter fun (name, _) => hit.any (·.span.overlapsSpan name)).map (·.2)
   if indexes.isEmpty then tracker
   else
    let spans := ImportDeletion.spans src.parsed.tokenized.tokens names indexes
    (spans.foldl (fun tracker span =>
     tracker.addEdit src.path (src.parsed.lines.rangeOf span) "") tracker).finishNodes hit
 | _, _ => tracker

def removePending : Nat -> EditTracker -> EditTracker
 | 0, tracker => tracker
 | fuel + 1, tracker =>
  if let some node := tracker.pending.getLast? then
   let after := tracker.removeImported src node
   removePending fuel
    (if after.pending.length == tracker.pending.length then
     {after with pending := after.pending.dropLast}.addEdit src.path (src.parsed.lines.rangeOf node) ""
    else after)
  else tracker

def finish :=
 let tracker := removePending src tracker.pending.length tracker
 (tracker, tracker.files.flatMap (·.2))

end EditTracker
end TypeChecker
