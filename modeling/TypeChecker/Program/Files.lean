import TypeChecker.Checking.Walk

/-! The files of a program: those that are tracked or shown in an editor and those that they import, which of them
have to be read or checked again, and what is known about them once they are checked. -/

namespace TypeChecker

structure ProgFile where
 path : String
 (isTracked isOpen isDeleted : Bool := false)
 needsCheck := true
 shown : Option (Int × String) := none
 lastText : String? := none
 block : Nat? := none
 (imports importedBy shadows : Strings := [])
 checked : Array Diag := #[]
 cycles : List Strings := []
 diags : List Diag := []
 revision := 0
 reported : Nat? := none

structure Prog where
 world : World
 places : ImportPlaces
 files : List ProgFile := []
 checksOnlyOpen := false

structure FileReport where
 path : String
 ver : Int? := none
 diags : List Diag := []

namespace Prog
variable (prog : Prog)
def project := prog.world.project

def ofProject (project : Project) (checksOnlyOpen : Bool) : Prog :=
 {world := {project := {project with places := project.places.mergePartialStubs}}
  places := project.places, checksOnlyOpen}

variable (path : String)
def file? := prog.files.find? (·.path == path)

def update (change : ProgFile -> ProgFile) : Prog :=
 {prog with files := prog.files.map fun file => if file.path == path then change file else file}

def isLib := path.startsWith (prog.places.lib ++ "/")
def origin := prog.world.origins.getD path {}

def setText (text : String?) :=
 let project := prog.project
 let texts := if let some text := text then project.texts.insert path text else project.texts.erase path
 {prog with world.project := {project with texts}}

variable (step : ProgFile -> Strings) (file : ProgFile) (paths : Strings) (isForced : Bool)
def isOwn := file.isTracked && !(prog.origin file.path).isThirdParty && !prog.isLib file.path
def isGoal := file.isOpen || file.isTracked && !prog.checksOnlyOpen

def reach : Nat -> Strings -> Strings -> Strings
 | 0, _, hit | _, [], hit => hit
 | fuel + 1, path :: rest, hit =>
  if hit.contains path then reach fuel rest hit
  else reach fuel (((prog.file? path).elim [] step) ++ rest) (hit ++ [path])

def closure := prog.reach step (prog.files.length * prog.files.length + prog.files.length + 1) [path] []

def isNeeded :=
 !file.isDeleted && (prog.closure file.path (·.importedBy)).any fun path =>
  (prog.file? path).any fun file => file.isTracked || file.isOpen || !file.shadows.isEmpty

/-! ### Adding and removing -/

def add (origin : FileOrigin := {}) :=
 {prog with
 files := prog.files ++ [file]
 world := {prog.world with origins := prog.world.origins.insertIfNew file.path origin}}

def addTracked :=
 if (prog.file? path).isSome then prog.update path ({· with isTracked := true})
 else prog.add {path, isTracked := true}

def unload := {prog with world.blockOfPath := prog.world.blockOfPath.erase path}

def remove : Prog :=
 let prog := prog.unload path
 {prog with
 files := prog.files.filterMap fun file => if file.path == path then none
  else some {file with importedBy := file.importedBy.filter (· != path), shadows := file.shadows.filter (· != path)}
 world := {prog.world with origins := prog.world.origins.erase path}}

def removeIn : Nat -> Prog -> List FileReport × Prog
 | 0, prog => ([], prog)
 | fuel + 1, prog => if let some file := prog.files.find? (!prog.isNeeded ·) then
   let (dropped, rest) := removeIn fuel (prog.remove file.path)
   (if file.reported.isSome then {path := file.path, ver := file.shown.map (·.1)} :: dropped else dropped, rest)
  else ([], prog)

def removeUnneeded : List FileReport × Prog :=
 let (dropped, prog) := removeIn prog.files.length prog
 let isVoid file := !prog.isGoal file && file.reported.isSome
 let void := (prog.files.filter isVoid).map fun file => {path := file.path, ver := file.shown.map (·.1) : FileReport}
 (dropped ++ void, {prog with
  files := prog.files.map fun file => if isVoid file then {file with reported := none} else file})

def track :=
 let prog := { prog with files := prog.files.map fun file =>
  {file with isTracked := file.isTracked && paths.contains file.path}}
 (paths.foldl addTracked prog).removeUnneeded

/-! ### Marking -/

def forgetTys := {prog with world := prog.world.forget}
def markDirty := (prog.update path ({· with needsCheck := true})).unload path

def markAgain (path : String) :=
 let bound := ((prog.world.blockOfPath[path]?).bind (prog.world.mods[·]?)).join
 let prog := prog.update path ({· with needsCheck := true})
 if bound.any fun bound => isForced || bound.src.facts.hasWildcardImport || bound.listed.isSome then prog.unload path
 else prog

def cellsBefore : Nat -> String -> Strings
 | 0, _ => []
 | fuel + 1, path => (prog.origin path).chained.elim [] fun before =>
  if (prog.file? before).any (!·.needsCheck) then before :: cellsBefore fuel before else []

def markUsers :=
 let users := prog.closure path (·.importedBy)
 let prog := users.foldl (fun prog dependent => prog.markAgain
  (dependent != path && ((prog.origin dependent).chained.any users.contains)) dependent) prog
 let before := users.flatMap (prog.cellsBefore prog.files.length)
 let prog := before.foldl (·.markAgain false ·) prog
 if before.isEmpty then prog else prog.forgetTys

def hasChanged := file.shown.isNone && file.lastText.isSome && prog.places.tree.files[file.path]? != file.lastText

def touch :=
 let marked := paths.filter fun path => (prog.file? path).any (isForced || prog.hasChanged ·)
 let prog := marked.foldl (fun prog path => (prog.markDirty path).markUsers path) prog
 if marked.isEmpty then prog else prog.forgetTys

def touchAll :=
 let paths := prog.files.map (·.path)
 if isForced then (paths.filter (!prog.isLib ·)).foldl markDirty
  {prog with files := prog.files.map ({· with needsCheck := true})}
 else prog.touch paths false

/-! ### Changes -/

def refresh := {prog with world.project.places := prog.places.mergePartialStubs}

def write (text : String) :=
 let prog := {prog with places.tree := prog.places.tree.add path text}
 (if (prog.file? path).any (·.shown.isSome) then prog else prog.setText path text).touch [path] false

def delete :=
 let files := prog.places.tree.files.toList.filter (·.1 != path)
 let prog := {prog with places.tree := .ofList files}
 ((prog.setText path none).refresh).touchAll true

structure OpenOpts where
 (isTracked isCell : Bool := false)
 chained : String? := none

def openFile (ver : Int) (text : String) (opts : OpenOpts) :=
 let prog := if let some _ := prog.file? path then prog.update path ({· with isOpen := true, reported := some 0})
  else prog.add {path, isTracked := opts.isTracked, isOpen := true}
    {isTyped := (prog.places.modOf path true true).isTyped, isCell := opts.isCell
     chained := opts.chained.filter fun path => (prog.file? path).isSome}
 let isSame := (prog.file? path).any (·.lastText == some text)
 let prog := prog.update path ({· with shown := some (ver, text), lastText := text, isDeleted := false})
 let prog := prog.setText path text
 if isSame then prog else prog.markDirty path

def close :=
 if let some _ := prog.file? path then
  let prog := prog.update path ({· with isOpen := false, shown := none})
  let prog := prog.setText path prog.places.tree.files[path]?
  (if (prog.file? path).any prog.hasChanged then (prog.markDirty path).markUsers path else prog).removeUnneeded
 else prog.removeUnneeded

def chainCycle? : Nat -> Strings -> String -> String?
 | 0, _, _ => none
 | fuel + 1, seen, path => (prog.origin path).chained.bind fun before =>
  if seen.contains before then before else chainCycle? fuel (before :: seen) before

def chain (before : String?) :=
 if let some _ := prog.file? path then
  let chained := before.filter fun path => (prog.file? path).isSome
  let origins := prog.world.origins.insert path {prog.origin path with chained}
  let prog := {prog with world := {prog.world with origins}}
  let prog := (prog.markDirty path).markUsers path
  (prog.chainCycle? (prog.files.length + 1) [path] path, prog)
 else (none, prog)

def allow (names : Strings) := {prog with world.project.allowed := names}

def run {α : Type} (action : Eval α) :=
 let (res, world) := action.run prog.world
 (res, {prog with world})

variable (users : Strings) (block : Nat) (path : String)
def bound? := ((prog.file? path).bind (·.block)).bind fun block => (prog.world.mods[block]?).join

def assemble : Prog :=
 if let some bound := prog.bound? path then prog.update path fun file =>
  let hit := Check.allDiags prog.project.rules bound file.checked
  let cycles := if let some cat := (bound.file.rules.level .importCycles).cat? then file.cycles.map fun paths =>
    {cat, msg := "\n  ".intercalate (say "impCycle" :: paths), range := default
     rule := (Rule.name .importCycles) : Diag}
   else []
  let isShown diag := !(prog.origin path).isThirdParty || !diag.cat.isFinding
  {file with diags := (hit ++ cycles).filter isShown, revision := file.revision + 1}
 else prog

def absorbFile :=
 let imports := (prog.world.importsOf.getD path []).filter (!prog.isLib ·)
 let known := prog.files.map (·.path)
 let prog := (imports.filter (!known.contains ·)).foldl (fun prog path => prog.add {path}) prog
 let prog := { prog with files := prog.files.map fun (file : ProgFile) =>
  let importers := file.importedBy.filter (· != path)
  {file with importedBy := if imports.contains file.path then importers ++ [path] else importers}}
 let text := prog.project.text? path
 (prog.update path ({· with imports, block, lastText := text, needsCheck := true})).assemble path

def absorbIn : Nat -> Prog -> Prog
 | 0, prog => prog
 | fuel + 1, prog =>
  let new? := prog.files.findSome? fun file =>
   ((prog.world.blockOfPath[file.path]?).filter (some · != file.block)).map (·, file.path)
  if let some (block, path) := new? then absorbIn fuel (prog.absorbFile block path) else prog

def absorb :=
 let prog := prog.world.added.foldl addTracked {prog with world.added := []}
 absorbIn prog.world.mods.size prog

def runOn {α : Type} (action : BoundMod -> Eval α) :=
 let (hit, prog) := prog.run do (<- @Check.loaded? Check.evals path).mapM action
 (hit, prog.absorb)

/-! ### Circles of imports -/

def cyclesIn (start : String) : Nat -> Strings -> Strings × List Strings -> String -> Strings × List Strings
 | 0, _, state, _ => state
 | fuel + 1, chain, (visited, hit), path =>
  if path.endsWith ".pyi" || (prog.origin path).isThirdParty then (visited, hit)
  else if visited.contains path then (visited, if path == start && 1 < chain.length then hit ++ [chain] else hit)
  else
   ((prog.file? path).elim [] (·.imports)).foldl (cyclesIn start fuel (chain ++ [path])) (path :: visited, hit)

def startCycle :=
 let first := paths.foldl (fun first path => if unitsLess path first then path else first) (paths.headD "")
 paths.dropWhile (· != first) ++ paths.takeWhile (· != first)

def addCycle (cycle : Strings) :=
 let first := cycle.headD ""
 if (prog.file? first).any fun file => file.cycles.length < 4 && !file.cycles.contains cycle then
  (prog.update first fun file => {file with cycles := file.cycles ++ [cycle]}).assemble first
 else prog

def findCycles :=
 if prog.project.rules.level .importCycles == .none || prog.project.allowed.isSome ||
   (prog.origin path).isCell then prog
 else
  let cycles := (prog.closure path (·.imports)).flatMap fun start =>
   (prog.cyclesIn start (prog.files.length + 1) [] ([], []) start).2
  (cycles.map startCycle).foldl addCycle prog

/-! ### Checking -/

def checkOne :=
 if let some file := prog.file? path then
  if !file.needsCheck || !prog.isGoal file || !prog.isNeeded file then prog
  else
   let users := users.filterMap (prog.world.blockOfPath[·]?)
   let (hit, prog) := {prog with world.users := users}.runOn path (@Check.findingsIn Check.evals)
   if let some checked := hit then
    ((prog.update path ({· with needsCheck := false, checked, cycles := []})).assemble path).findCycles path
   else (prog.update path ({· with isDeleted := true, isTracked := false})).markUsers path
 else prog

def cellsAfter : Nat -> String -> Strings
 | 0, _ => []
 | fuel + 1, path =>
  (prog.files.reverse.find? fun file => (prog.origin file.path).chained == path).elim [] fun next =>
   next.path :: cellsAfter fuel next.path

def checkFile :=
 if !(prog.origin path).isCell then prog.checkOne [] path
 else
  let after := prog.cellsAfter prog.files.length path
  let prog := after.zipIdx.reverse.foldl (fun prog (path, idx) => prog.checkOne (after.drop (idx + 1)) path) prog
  prog.checkOne after path

def analyze :=
 let opened := prog.files.filter fun file => file.isOpen && file.needsCheck
 let prog := (opened.map (·.path)).foldl checkFile prog
 if prog.checksOnlyOpen then prog else ((prog.files.filter prog.isOwn).map (·.path)).foldl checkFile prog

/-! ### Answers -/

def reports (onlyNew : Bool) : List FileReport × Prog :=
 let (dropped, prog) := prog.removeUnneeded
 let isDue file := prog.isGoal file && !(onlyNew && file.reported == file.revision)
 let hit := (prog.files.filter isDue).map fun file =>
  {path := file.path, ver := file.shown.map (·.1), diags := file.diags : FileReport}
 (dropped ++ hit, {prog with
  files := prog.files.map fun file => if isDue file then {file with reported := file.revision} else file})

variable (range : LineRange)
def diagsIn := ((prog.file? path).elim [] (·.diags)).filter (·.range.intersects range)

def check :=
 let prog := if (prog.file? path).isSome then prog.checkFile path else prog
 let lines := (prog.bound? path).elim 0 (·.src.lines.size)
 (prog.diagsIn path ⟨⟨0, 0⟩, ⟨lines, 0⟩⟩, prog)

def textIn? : Text? := do
 let text := .ofString (<- (<- prog.file? path).shown).2
 let tokenized <- (tokenize? text).toOption
 let span <- (<- (tokenized.lines.spanOf? range).toOption)
 return text.extract span.start span.stop

def counts :=
 let own := (prog.files.filter prog.isOwn).length
 [own, own, (prog.files.filter fun file => file.needsCheck && prog.isGoal file &&
   !(prog.origin file.path).isCell).length, (prog.files.filter (·.isOpen)).length]

def tys := prog.runOn path (@Check.tysIn Check.evals)

end Prog
end TypeChecker
