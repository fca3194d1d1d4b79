import TypeChecker.Binding.Scope
import TypeChecker.Path.Uri

/-! Finding the files that an import leads to, and the directories below which modules are found. Files are data: a
table of texts by path, and the names in each directory. -/

namespace TypeChecker
namespace RelativeName

def ofComps : Strings -> String
 | [] => ""
 | [component] => if component == ".." then "." else component
 | component :: rest => (if component == ".." then "." else component ++ ".") ++ ofComps rest

def between? (src tgt : Uri) (hidden : List Uri) (ignoreFolders srcIsFile : Bool) :=
 if hidden.any (tgt.isChildOf ·) then none
 else
  let name := tgt.stripLongExt.fileName
  let folder := tgt.dir
  let (stop, sym) : Uri × String :=
   if !srcIsFile then (tgt, "")
   else if name != "__init__" then (folder, name)
   else if ignoreFolders then (folder.dir, folder.fileName)
   else (folder, "")
  let path := "." ++ ofComps ((if srcIsFile then src.dir else src).compsTo stop)
  some (if sym == "" then path
   else if path.endsWith "." then path ++ sym
   else path ++ "." ++ sym)

def dirOfDots? (dir : Uri) (dots : Int) := go (dots - 1).toNat dir
where
 go : Nat -> Uri -> Option Uri
  | 0, dir => dir
  | count + 1, dir => if dir.isRoot then none else go count dir.dir

def haveSameParent (lhs rhs : Strings) := lhs.length == rhs.length && !lhs.isEmpty && lhs.dropLast == rhs.dropLast

end RelativeName

inductive ImportKind where
 | builtIn | thirdParty | local
 deriving DecidableEq

def ImportKind.ofName? : String -> Option ImportKind
 | "BuiltIn" => some .builtIn
 | "ThirdParty" => some .thirdParty
 | "Local" => some .local
 | _ => none

structure ImplicitImport where
 name : String
 uri : ModUri
 (isStub isNative isTyped : Bool := false)

structure ImportRes where
 name : String
 (isRelative isHit isPartlyResolved isNamespacePkg isStub isNative isTyped : Bool := false)
 (isLocalTypings : Bool := false)
 kind : ImportKind := .local
 resolved : Array ModUri := #[]
 implicit : List ImplicitImport := []
 filtered : List ImplicitImport := []
 (hasInit isStubPkg isStandard : Bool := false)
 (searchPath pkg : String? := none)
 marker : Option (String × Bool) := none
 nonStub : Option ImportRes := none

abbrev ImportRes? := Option ImportRes
def ImportRes.filtered? (res : ImportRes) (name : String) := res.filtered.find? (·.name == name)

structure FileTree where
 files : Std.HashMap String String := {}
 ents : Std.HashMap String (Array (String × Bool)) := {}

namespace FileTree
variable (tree : FileTree) (path : String)
def isFile := tree.files.contains path
def isDir := tree.ents.contains path

def addEnt (ents : Std.HashMap String (Array (String × Bool))) :
  Nat -> String -> Bool -> Std.HashMap String (Array (String × Bool))
 | 0, _, _ => ents
 | fuel + 1, path, isDir =>
  let dir := Path.dir path
  if dir == path then ents
  else
   let ents := if ents.contains dir then ents else addEnt ents fuel dir true
   ents.insert dir ((ents.getD dir #[]).push (Path.fileName path, isDir))

def add (path text : String) : FileTree :=
 {files := tree.files.insert path text
  ents := if tree.isFile path then tree.ents else addEnt tree.ents path.length path false}

def ofList (files : ByName String) : FileTree := files.foldl (fun tree (path, text) => tree.add path text) {}
def namesIn (dir : String) := (tree.ents.getD dir #[]).toList
def first? (paths : Strings) := paths.find? tree.isFile

end FileTree

structure ImportPlaces where
 tree : FileTree
 root := "/proj"
 lib := "/typeshed/stdlib"
 stubs : String? := none
 (extra search : Strings := [])

structure ModName where
 leadingDots := 0
 parts : Strings
 syms : Option Strings := none

namespace ModName

def format (name : ModName) := String.ofList (.replicate name.leadingDots '.') ++ ".".intercalate name.parts

def ofString (text : String) : ModName :=
 let (dots, rest) := text.toList.span (· == '.')
 {leadingDots := dots.length, syms := some []
  parts := if text.isEmpty then [] else (String.ofList rest).splitOn "."}

end ModName

structure ResolveOpts where
 (allowsNative usesStubPkgs : Bool := false)
 allowsStubs := true
 seeksMarker := false

namespace ImportPlaces

def stubSuffix := "-stubs"
def isNativeExt (ext : String) := [".pyd", ".so", ".dylib"].contains ext

def join (dir name : String) :=
 if name.isEmpty then dir
 else if dir.endsWith "/" then dir ++ name else dir ++ "/" ++ name

def initFiles (dir : String) (allowsStubs : Bool) :=
 (if allowsStubs then [join dir "__init__.pyi"] else []) ++ [join dir "__init__.py"]

variable (places : ImportPlaces) (dir : String)
def marker? :=
 let path := join dir "py.typed"
 places.tree.files[path]?.map fun text =>
  (path, text.startsWith "partial\n" || text.startsWith "partial\r\n" || text == "partial")

def addAuto (hit : List ImplicitImport) (new : ImplicitImport) :=
 if hit.any (·.name == new.name) then hit.map fun old => if old.name == new.name then new else old
 else hit ++ [new]

def autoIn (exclusions : Strings) :=
 let names := places.tree.namesIn dir
 let addFile hit name :=
  let path := join dir name
  let ext := Path.ext name
  let isSrc := ext == ".py" || ext == ".pyi"
  let bare := if isSrc then Path.stripExt name else Path.stripLongExt name
  if exclusions.contains path ||
    !(isSrc || (isNativeExt ext && !(places.tree.first? [path ++ ".py", path ++ ".pyi"]).isSome)) then hit
  else if hit.any fun old => old.name == bare && old.isStub then hit
  else addAuto hit {name := bare, uri := .file path, isStub := ext == ".pyi", isNative := !isSrc}
 let addDir hit name :=
  let path := join dir name
  if let some file := places.tree.first? (initFiles path true) then
   if exclusions.contains file then hit
   else addAuto hit {name, uri := .file file, isStub := file.endsWith "i", isTyped := (places.marker? path).isSome}
  else hit
 let hit := names.foldl (fun hit (name, isDir) => if isDir then hit else addFile hit name) []
 names.foldl (fun hit (name, isDir) => if isDir then addDir hit name else hit) hit

def native? (path : String) :=
 let dir := Path.dir path
 ((places.tree.namesIn dir).find? fun (name, isDir) =>
  !isDir && isNativeExt (Path.ext name) &&
   Path.equalIgnoringCase (Path.fileName path) (Path.stripLongExt name)).map fun (name, _) => join dir name

def follow (opts : ResolveOpts) : Bool -> String -> Strings -> ImportRes -> ImportRes
 | _, _, [], res => res
 | isFirst, dir, part :: rest, res =>
  let path := join dir part ++ (if opts.usesStubPkgs && isFirst then stubSuffix else "")
  let isLast := rest.isEmpty
  let isDir := places.tree.isDir path
  let res := if isDir && isFirst then {res with pkg := path} else res
  let markerAt dir := res.marker.or (if opts.seeksMarker then places.marker? dir else none)
  let init := if isDir then places.tree.first? (initFiles path opts.allowsStubs) else none
  if let some file := init then
   let res := {res with
    resolved := res.resolved.push (.file file), hasInit := true, marker := markerAt path
    isStub := res.isStub || (isLast && file.endsWith "i")}
   if isLast then {res with implicit := places.autoIn path (initFiles path true)}
   else follow opts false path rest res
  else
   let res := if isDir then {res with hasInit := false, marker := markerAt path} else res
   let files := (if opts.allowsStubs then [path ++ ".pyi"] else []) ++ [path ++ ".py"]
   let closing res :=
    let marker := res.marker.or (if opts.seeksMarker then places.marker? (Path.dir path) else none)
    {res with marker}
   if let some file := places.tree.first? files then closing {res with
     resolved := res.resolved.push (.file file)
     isStub := res.isStub || (isLast && file.endsWith "i")}
   else if let some file := if opts.allowsNative then places.native? path else none then closing {res with
     resolved := res.resolved.push (.file file), isNative := true}
   else if !isDir then closing res
   else
    let res := {res with resolved := res.resolved.push .none, isNamespacePkg := true}
    if isLast then closing {res with implicit := places.autoIn path [path ++ ".py", path ++ ".pyi"]}
    else follow opts false path rest {res with marker := none}

def resolveBelow (name : ModName) (opts : ResolveOpts) (dir : String) :=
 let start : ImportRes := {name := name.format, searchPath := dir
                           isStubPkg := opts.usesStubPkgs && !name.parts.isEmpty}
 let res :=
  if name.parts.isEmpty then
   let implicit := places.autoIn dir (initFiles dir true)
   if let some file := places.tree.first? (initFiles dir opts.allowsStubs) then {start with
     resolved := #[.file file], isStub := file.endsWith "i", implicit}
   else {start with resolved := #[.none], isNamespacePkg := true, implicit}
  else places.follow opts true dir name.parts start
 let count := res.resolved.size
 {res with
 isPartlyResolved := 0 < count && count < name.parts.length
 isHit := name.parts.length <= count
 filtered := res.implicit, isTyped := res.marker.isSome}

def resolveAt (name : ModName) (opts : ResolveOpts) (dir : String) :=
 let plain := places.resolveBelow name {opts with usesStubPkgs := false} dir
 if opts.allowsStubs && opts.usesStubPkgs then
  let res := places.resolveBelow name {usesStubPkgs := true, seeksMarker := true} dir
  if res.pkg.isSome && (!res.isNamespacePkg || res.isHit) then res else plain
 else plain

variable (name : ModName) (res : ImportRes)
def offersSyms :=
 if let some syms := name.syms then syms.any fun sym => res.implicit.any (·.name == sym) else !res.implicit.isEmpty

def better (old new : ImportRes) :=
 let depth res := res.resolved.findIdx? (!·.isEmpty)
 let byDepth :=
  match depth old, depth new with
  | none, none => none
  | none, some _ => new
  | some _, none => old
  | some lhs, some rhs => if lhs == rhs then none else if lhs < rhs then old else new
 if new.isHit then
  if let some res := byDepth then res
  else if !old.isHit then new
  else
   let unsettled := old.isNamespacePkg && new.isNamespacePkg && name.syms.isSome && !offersSyms name old
   if unsettled && offersSyms name new then new
   else if unsettled && old.hasInit != new.hasInit then if old.hasInit then old else new
   else if old.kind == .local && new.kind == .thirdParty then old
   else if old.isTyped && !new.isTyped then old
   else if !old.isTyped && new.isTyped && old.kind == new.kind then new
   else if old.isStub != new.isStub then if old.isStub then old else new
   else if new.resolved.size < old.resolved.size then new
   else old
 else if new.isPartlyResolved then byDepth.getD old
 else old

def resolveBest (allowsStubs : Bool) :=
 let opts := {usesStubPkgs := true, allowsStubs}
 let typings := (if allowsStubs then places.stubs else none).bind fun dir =>
  let res := places.resolveAt name opts dir
  if res.isHit && (!res.isNamespacePkg || !(res.resolved.back?.any (·.isEmpty)) || offersSyms name res) then
   some {res with isLocalTypings := true}
  else none
 if let some res := typings then res
 else
  let opts := {opts with allowsNative := true}
  let best := places.extra.foldl (fun best dir =>
   better name best (places.resolveAt name opts dir))
   (places.resolveAt name opts places.root)
  let standard := places.resolveAt name {} places.lib
  if allowsStubs && !name.parts.isEmpty && standard.isHit then
   {standard with isStandard := true, kind := if name.format == "typing_extensions" then .thirdParty else .builtIn}
  else
   places.search.foldl (fun best dir =>
    better name best {places.resolveAt name {opts with seeksMarker := true} dir with kind := .thirdParty}) best

def filterSubmodules :=
 match name.syms with
 | none => {res with filtered := []}
 | some [] => res
 | some syms => {res with filtered := res.implicit.filter (syms.contains ·.name)}

def dotsFrom? (dir : String) : Nat -> String?
 | 0 | 1 => dir
 | dots + 2 =>
  let above := Path.dir dir
  if above == dir then none else dotsFrom? above (dots + 1)

def resolveUpwards : Nat -> String -> ImportRes?
 | 0, _ => none
 | fuel + 1, dir =>
  if !dir.startsWith (places.root ++ "/") then none
  else
   let res := places.resolveAt name {} dir
   if res.isHit then res else resolveUpwards fuel (Path.dir dir)

def resolve (file : String) (name : ModName) (isStrict : Bool := false) : ImportRes :=
 let dir := Path.dir file
 if 0 < name.leadingDots then
  if let some dir := dotsFrom? dir name.leadingDots then
   let opts := {allowsNative := true}
   let res := places.resolveAt name opts dir
   let nonStub := if res.isStub then some (places.resolveAt name {opts with allowsStubs := false} dir) else none
   filterSubmodules name {res with isRelative := true, nonStub}
  else {name := name.format}
 else
  let res := places.resolveBest name true
  let res := if res.isStub then {res with nonStub := (places.resolveBest name false)} else res
  let res := if res.isHit || isStrict then res else (places.resolveUpwards name file.length dir).getD res
  filterSubmodules name res

end ImportPlaces
end TypeChecker
namespace TypeChecker.ImportPlaces
open TypeChecker.Path
variable (places : ImportPlaces)
def roots := places.lib :: places.root :: places.extra ++ places.stubs.toList ++ places.search

def mergePartialStubs : ImportPlaces :=
 let pkgs := (places.stubs.toList ++ places.root :: places.extra ++ places.search).flatMap fun dir =>
  (places.tree.namesIn dir).filterMap fun (name, isDir) =>
   let path := join dir name
   let tgts := (places.roots.map (join · (dropEnd name stubSuffix))).filter places.tree.isDir
   if isDir && name.endsWith stubSuffix && (places.marker? path).any (·.2) && !tgts.isEmpty then
    some (path ++ "/", tgts)
   else none
 let package? path := pkgs.find? fun (dir, _) => path.startsWith dir
 let (moved, kept) := places.tree.files.toList.partition fun (path, _) => (package? path).isSome
 let moved := moved.flatMap fun (path, text) => ((package? path).toList.flatMap fun (dir, tgts) =>
  if path.endsWith ".pyi" then tgts.map fun tgt => (join tgt (path.drop dir.length).toString, text) else [])
 {places with tree := .ofList (kept ++ moved)}

def envPaths (tree : FileTree) (dir ver : String) :=
 let site := ["lib", "lib64", "Lib"].filterMap fun name =>
  let lib := join dir name
  let inside name := join (join lib name) "site-packages"
  let versions := ((tree.namesIn lib).filter fun (name, isDir) =>
   isDir && name.startsWith "python3." && tree.isDir (inside name)).map (·.1)
  if tree.isDir (join lib "site-packages") then join lib "site-packages"
  else ((versions.find? (· == "python" ++ ver)).or versions.head?).map inside
 let added := site.flatMap fun site =>
  let files := (tree.namesIn site).filter fun (name, isDir) => !isDir && name.endsWith ".pth"
  (files.mergeSort fun lhs rhs => !unitsLess rhs.1 lhs.1).flatMap fun (name, _) =>
   (tree.files.getD (join site name) "").splitOn "\n" |>.filterMap fun line =>
    let line := line.trimAscii.toString
    let path := Path.resolve site [line]
    if line.isEmpty || line.startsWith "#" || line.startsWith "import " || !tree.isDir path then none else path
 (site ++ added).eraseDups

/-! ### Names of files -/

structure FileMod where
 name := ""
 kind : ImportKind := .local
 (isStandard isLocalTypings isTyped : Bool := false)

def nameBelow? (file dir : String) :=
 let bare := stripExt file
 let bare := if isNativeExt (ext file) then stripExt bare else bare
 if !contains dir bare false then none
 else
  let bare := if bare.endsWith "__init__" then Path.dir bare else bare
  match (comps bare).drop (comps dir).length with
  | [] => none
  | first :: rest =>
   some (".".intercalate ((if first.endsWith stubSuffix then dropEnd first stubSuffix else first) :: rest))

variable (name file : String)
def isValidName := (name.splitOn ".").all Name.isIdent

def isMarkedTyped : Nat -> String -> Bool
 | 0, _ => false
 | fuel + 1, dir =>
  if !dir.startsWith (places.root ++ "/") then false
  else if let some (_, isPartial) := places.marker? dir then !isPartial else isMarkedTyped fuel (Path.dir dir)

def modOf (allowsInvalid seeksMarker := false) : FileMod :=
 if let some name := (nameBelow? file places.lib).filter isValidName then
  {name, kind := .builtIn, isStandard := true}
 else
  let picks := ((places.root :: places.extra).map fun root => (root, .local, false)) ++
   (places.stubs.toList.map fun root => (root, .local, true)) ++
   (places.search.map fun root => (root, .thirdParty, false))
  let (hit, invalid) := picks.foldl (fun (hit, invalid) (root, kind, isLocalTypings) =>
   match nameBelow? file root with
   | none => (hit, invalid)
   | some name =>
    if !isValidName name then (hit, name)
    else if hit.name.isEmpty || name.length < hit.name.length then
     ({name, kind, isLocalTypings := hit.isLocalTypings || isLocalTypings : FileMod}, invalid)
    else (hit, invalid)) ({}, "")
  let hit := if seeksMarker && hit.kind == .thirdParty then
    {hit with isTyped := places.isMarkedTyped file.length (dir file)}
   else hit
  if hit.name.isEmpty && allowsInvalid then {hit with name := invalid} else hit

def isStandardMod :=
 let parts := name.splitOn "."
 !(parts.getLastD "").startsWith "_" && places.tree.isFile (join places.lib ("/".intercalate parts ++ ".pyi"))

/-! ### Suggestions -/

def suggestIn (name : ModName) (isStrict : Bool) (hit : ByName String)
  (dir : String) :=
 let parents := name.parts.dropLast
 let goal := name.parts.getLastD ""
 let dir := parents.foldl join dir
 let add hit mod path :=
  let res := places.resolve file {name with parts := parents ++ [mod]} isStrict
  if (hit.lookup mod).isSome || mod.any (fun letter => letter == '.' || letter == '-') ||
    (Name.isDunder mod && mod != "__future__") || !res.isHit ||
    (Name.isPrivateOrProtected mod && res.marker.isSome) then hit
  else hit ++ [(mod, path)]
 let names := places.tree.namesIn dir
 let hit := names.foldl (fun hit (file, isDir) =>
  let mod := stripLongExt file
  let ext := lowerCase (ext file)
  if isDir || mod == "__init__" || !nameMatches goal mod || !([".pyi", ".py"].contains ext || isNativeExt ext) then hit
  else add hit mod (join dir file)) hit
 names.foldl (fun hit (mod, isDir) =>
  if !isDir || !mod.startsWith goal then hit
  else add hit mod ((places.tree.first? (initFiles (join dir mod) true)).getD "")) hit

def upwards : Nat -> String -> Strings
 | 0, _ => []
 | fuel + 1, dir => if dir.startsWith (places.root ++ "/") then dir :: upwards fuel (Path.dir dir) else []

def suggestions (name : ModName) :=
 let dir := dir file
 if 0 < name.leadingDots then (dotsFrom? dir name.leadingDots).toList.foldl (places.suggestIn file name true) []
 else
  let lib := if name.parts.isEmpty then [] else [places.lib]
  let hit := (lib ++ places.root :: places.extra ++ places.stubs.toList ++ places.search).foldl
   (places.suggestIn file name true) []
  (places.upwards file.length dir).foldl (places.suggestIn file name false) hit

/-! ### Sources of stubs -/

def stubSrcs (resolved : List ImportRes) (stub : String) :=
 let hit := resolved.filterMap fun res =>
  match res.resolved.back?, res.nonStub.bind fun other => if other.isHit then other.resolved.back? else none with
  | some (.file path), some (.file src) =>
   if res.isStub && res.isHit && path == stub && hasSrcExt src then src else none
  | _, _ => none
 if !hit.isEmpty then hit
 else
  let inside := places.roots.filterMap fun root =>
   if !stub.startsWith (root ++ "/") then none
   else match (stub.drop (root.length + 1)).toString.splitOn "/" with
    | first :: rest => ("/".intercalate
      ((if first.endsWith stubSuffix then dropEnd first stubSuffix else first) :: rest))
    | [] => none
  inside.flatMap fun path => places.roots.filterMap fun root =>
   let bare := stripExt (join root path)
   places.tree.first? [bare ++ ".py", if bare.endsWith "__init__" then dir bare ++ ".py" else join bare "__init__.py"]

end TypeChecker.ImportPlaces
