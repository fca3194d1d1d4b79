import TypeChecker.Binding.Name

/-! Binding import statements. -/

namespace TypeChecker
namespace LoadPlan

def addAuto (imports : List ImplicitImport) (known : ByName LoadPlan) :=
 imports.foldl (fun known hit =>
  if known.any (·.1 == hit.name) then
   known.map fun (name, actions) =>
    if name == hit.name then (name, .mk hit.uri true actions.isLost actions.implicit) else (name, actions)
  else known ++ [(hit.name, .mk hit.uri true none [])]) known

def follow (whole : ImportRes?) (isResolved : Bool) :
  List (Nat × String × ImportRes?) -> ByName LoadPlan -> ByName LoadPlan
 | [], known => known
 | (idx, name, partImport) :: rest, known =>
  let resolved? := whole.bind (·.resolved[idx]?)
  let actions := ((known.find? (·.1 == name)).map (·.2)).getD (.mk (resolved?.getD .lost) false (some !isResolved) [])
  let actions :=
   if rest.isEmpty then
    match whole, resolved? with
    | some res, some uri => .mk uri true actions.isLost (addAuto res.filtered actions.implicit)
    | _, _ => actions
   else if let some res := partImport then
     if res.resolved.isEmpty then actions
     else .mk (res.resolved.getD idx .none) true actions.isLost (addAuto res.filtered actions.implicit)
    else actions
  let actions := .mk actions.uri actions.load actions.isLost (follow whole isResolved rest actions.implicit)
  if known.any (·.1 == name) then
   known.map fun (other, old) => if other == name then (other, actions) else (other, old)
  else known ++ [(name, actions)]

end LoadPlan
namespace Binding
variable (node : Node)
def modParts := if let .modName leadingDots nameParts _ := node.kind then (leadingDots, nameParts) else (0, [])

def dots (count : Nat) := String.ofList (List.replicate count '.')

def formatModName :=
 let (leadingDots, parts) := modParts node
 dots leadingDots ++ ".".intercalate (parts.map Node.nameVal)

def readable? (res : ImportRes?) := res.filter fun res => res.isHit && !res.isNative && !res.resolved.isEmpty

def declareMod (modName : Node) (asName : Node?) (res : ImportRes?) (sym : SymId) : Binds := do
 let (leadingDots, parts) := modParts modName
 let first := parts.head?.elim "" Node.nameVal
 markFlow node
 let hit? := readable? res
 let firstUri := hit?.bind (·.resolved[0]?)
 let lastUri := (hit?.bind (·.resolved.back?)).getD .lost
 let world <- world
 let existing := (world.sym sym).decls.find? fun id =>
  let decl := world.decl id
  decl.asAlias?.any fun facts => facts.firstNamePart == some first && firstUri.all (· == decl.uri)
 let name := if asName.isSome then formatModName modName else dots leadingDots ++ first
 let inExcept := (<- get).inExcept
 let decl := if let some id := existing then world.decl id
  else
   {node, uri := lastUri, range := default, inExcept
    modName := if hit?.isSome then name else res.elim "" (·.name)
    kind := .importAlias
     {load := hit?.isNone, usesLocalName := asName.isSome
      firstNamePart := if hit?.isSome then first else name, isLost := hit?.isNone} none}
 let facts := decl.asAlias?.getD {load := false}
 let importOf := (<- read).importOf
 -- What is known of the first package alone.
 let firstImport := (parts.head?.bind importOf).filter (!·.resolved.isEmpty)
 let (uri, facts) : ModUri × AliasFacts := if let some res := firstImport then (res.resolved.getD 0 .none,
    {facts with load := true, implicit := LoadPlan.addAuto res.filtered facts.implicit})
  else (decl.uri, facts)
 let (uri, facts) : ModUri × AliasFacts :=
  if asName.isSome || parts.length == 1 then
   (lastUri, {facts with
    load := true, isLost := false
    implicit := if let some res := res then LoadPlan.addAuto res.filtered facts.implicit else facts.implicit})
  else
   let rest := (parts.zipIdx.drop 1).map fun (part, idx) => (idx, part.nameVal, importOf part)
   (uri, {facts with implicit := LoadPlan.follow res hit?.isSome rest facts.implicit})
 let fallback := if let .importAlias _ fallback := decl.kind then fallback else none
 let decl := {decl with uri, kind := .importAlias facts fallback}
 let some id := existing | attach sym (<- addDecl decl)
 modifyDecl id fun _ => decl

def typingNamesOfInterest := ["Final", "ClassVar", "Annotated"]
def dataclassNamesOfInterest := ["InitVar"]

variable (name : String)
def isTypingMod := name == "typing" || name == "typing_extensions"

def maybeHide (sym : SymId) : Binds := do
 let file <- file
 if file.isStub || file.isTypedPkg then
  modify fun s => {s with hiddenPicks := s.hiddenPicks.insert name sym}

def isGlobalScope := return (<- curScope).isGlobal

variable (modName : Node)
def bindImportAs (asName : Node?) : Binds := do
 let (_, parts) := modParts modName
 match parts with
 | [] => pure ()
 | first :: rest =>
  let nameNode := asName.getD first
  let name := nameNode.nameVal
  let sym <- bindHere nameNode
  let isReexport := rest.isEmpty && asName.any (·.nameVal == first.nameVal)
  if let some sym := sym then if (<- isGlobalScope) && !isReexport then maybeHide name sym
  let res := (<- read).importOf modName
  if res.isNone then failAssertion
  if let some sym := sym then declareMod node modName asName res sym
  assign nameNode
  if rest.isEmpty then
   let firstName := first.nameVal
   if isTypingMod firstName then modify fun s => {s with typingMods := s.typingMods ++ [name]}
   else if firstName == "sys" then modify fun s => {s with sysMods := s.sysMods ++ [name]}
   else if firstName == "dataclasses" then modify fun s => {s with dataclassMods := s.dataclassMods ++ [name]}

def wildNames (exports : ModExports) :=
 let visible := (exports.syms.filter fun (name, isHidden) => !isHidden && !name.startsWith "_").map (·.1)
 if let some names := exports.listed then if exports.listIsUncertain then names ++ visible else names
 else visible

def bindSubmodule (res : ImportRes?) : Binds := do
 let some first := (modParts modName).2.head? | pure ()
 if let some sym <- bindHere first then declareMod node modName none res sym
 assign first

def aliasDecl (uri : ModUri) (range : LineRange) (modName : String) (facts : AliasFacts)
  (fallback : Option (ModUri × AliasFacts × String)) : Bind Decl := do
 pure {kind := .importAlias facts fallback, node, uri, range, modName, inExcept := (<- get).inExcept}

variable (item : Node) (parts : ImportFromParts Node) (res : ImportRes)
def bindWild (tgt : ModUri) (isInit isTyping isDataclasses : Bool) : Binds := do
 addRef wildKey
 let file <- file
 let exports? := tgt.path?.bind (<- read).exportsOf
 let names <- match exports? with
  | none => pure #[]
  | some exports => do
   let goal := wildNames exports
   if isInit then
    let first := ((modParts parts.modName).2.head?.map Node.nameVal).getD ""
    if !goal.contains first then bindSubmodule node parts.modName res
   let mut names := #[]
   for name in goal do
    let some sym <- bindName (<- get).scope name | pure ()
    if exports.syms.any (·.1 == name) then
     attach sym (<- addDecl (<- aliasDecl node tgt default file.modName {load := true, symName := name} none))
     names := names.push name
    else if let some implicit := res.filtered? name then
      attach sym (<- addDecl (<- aliasDecl node tgt default
       file.modName {load := true, symName := name}
       (some (implicit.uri, {load := true}, file.modName))))
      names := names.push name
     else pure ()
    if isTyping then modify fun s => {s with world := s.world.modifySym sym ({· with typingAlias := name})}
   pure names
 if !(<- isDead) then
  pass (.wildImport node names)
  leadBy .raises
 markFlow node
 if isTyping then
  modify fun s => {s with
   typingNames := typingNamesOfInterest.foldl (fun names name => names.insert name name) s.typingNames}
 if isDataclasses then
  modify fun s => {s with
   dataclassNames := dataclassNamesOfInterest.foldl (fun names name => names.insert name name) s.dataclassNames}

def fileStem (path : String) :=
 let name := (path.splitOn "/").getLastD ""
 match name.splitOn "." with
 | [] | [_] => name
 | pieces => ".".intercalate pieces.dropLast

def bindImportedName (res : ImportRes?) (tgt : ModUri) (isTyping isDataclasses : Bool) : Binds := do
 if let .importFromAs nameNode asName := item.kind then
  let (leadingDots, modNames) := modParts parts.modName
  let importedName := nameNode.nameVal
  let boundNode := asName.getD nameNode
  markFlow item
  let some sym <- bindHere boundNode | pure ()
  if !modNames.isEmpty && (<- isGlobalScope) && !(asName.any (·.nameVal == importedName)) then
   maybeHide boundNode.nameVal sym
  let file <- file
  let isOwnPkg := fileStem file.path == "__init__" && ((leadingDots == 1 && modNames.isEmpty) || tgt == .file file.path)
  let modName := formatModName parts.modName
  let implicit := res.bind (·.filtered? importedName)
  let decl <- aliasDecl item tgt (<- rangeOf boundNode) modName
   {load := implicit.isNone || !isOwnPkg, usesLocalName := asName.isSome
    symName := importedName, isNative := res.any (·.isNative)}
   (implicit.map fun implicit => (implicit.uri, {load := true}, modName))
  attach sym (<- addDecl decl)
  assign boundNode
  if isTyping && typingNamesOfInterest.contains importedName then
   modify fun s => {s with
    typingNames := s.typingNames.insert boundNode.nameVal importedName
    world := s.world.modifySym sym ({· with typingAlias := boundNode.nameVal})}
  if isDataclasses && dataclassNamesOfInterest.contains importedName then
   modify fun s => {s with dataclassNames := s.dataclassNames.insert boundNode.nameVal importedName}

def bindImportFrom : Binds := do
 let res := (<- read).importOf parts.modName
 markFlow node
 let tgt := ((res.filter fun res => res.isHit && !res.isNative).bind (·.resolved.back?)).getD .none
 let file <- file
 let (leadingDots, modNames) := modParts parts.modName
 let isInit := fileStem file.path == "__init__" && leadingDots == 1 && modNames.length == 1
 let soleName := if let [name] := modNames then name.nameVal else ""
 let isTyping := isTypingMod soleName
 let isDataclasses := soleName == "dataclasses"
 if parts.isWildcard then
  let anc <- anc
  if (anc.enclCls? node).isSome || (anc.enclFn? node).isSome then reportError "wildInFn" node
  let some res := res | pure ()
  bindWild node parts res tgt isInit isTyping isDataclasses
 else
  if isInit then bindSubmodule node parts.modName res
  for item in parts.imports do bindImportedName item parts res tgt isTyping isDataclasses

def isTypedThroughout (parent : Node?) : Bool :=
 if let some kind := parent.map (·.kind) then match kind with
  | .importFrom parts => res.isNamespacePkg && parts.imports.all fun item =>
   if let .importFromAs name _ := item.kind then (res.filtered? name.nameVal).any (·.isTyped) else false
  | _ => false
 else false

def checkModName : Binds := do
 let some res := (<- read).importOf node | failAssertion
 if res.isNative then return
 if !res.isHit then report .missingImports "impLost" node [res.name]
 else if !res.isStub && res.kind == .thirdParty && !res.isTyped && !isTypedThroughout res ((<- anc).parent? node) then
  report .missingTyStubs "stubFileGone" node [res.name] ["pyright.createtypestub"]

/-! The list of exports. -/

def listedBy? : Bind (Option (Array String)) := do
 let world <- world
 let exportsOf := (<- read).exportsOf
 let listed uri := (uri.path?.bind exportsOf).bind (·.listed)
 let scope <- curScope
 let decls := (scope.sym? name).elim #[] world.declsOf
 let asName? := decls.findSome? fun decl => if let .importAlias facts fallback := decl.kind then
   some (decl.uri, facts, fallback)
  else none
 return asName?.bind fun (uri, facts, fallback) =>
  let spare := (fallback.map (·.1)).filter (!·.isEmpty)
  let chosen := if !uri.isEmpty && facts.load then some uri else if fallback.any (·.2.1.load) then spare else none
  chosen.bind (listed · <|> spare.bind listed)

end Binding
end TypeChecker
