import TypeChecker.Text.Range

/-! File paths as texts: roots, components, extensions and the ways to join and to compare them. Then locations of
files: a path with a query and a fragment, on a file system that may ignore case, or no location at all. -/

namespace TypeChecker.Path

def splitAtEach {α : Type} [BEq α] (sep : α) : List α -> List (List α)
 | [] => [[]]
 | head :: rest =>
  if head == sep then [] :: splitAtEach sep rest
  else match splitAtEach sep rest with
   | [] => [[head]]
   | first :: others => (head :: first) :: others

def cutBeforeLast? {α : Type} [BEq α] (elem : α) (items : List α) :=
 let after := items.reverse.takeWhile (· != elem)
 if after.length < items.length then
  some (items.take (items.length - after.length - 1), items.drop (items.length - after.length - 1))
 else none

def splitRoot : List Char -> List Char × List Char
 | '/' :: '/' :: rest =>
  let server := rest.takeWhile (· != '/')
  match rest.dropWhile (· != '/') with
  | [] => ('/' :: '/' :: server, [])
  | slash :: tail => ('/' :: '/' :: (server ++ [slash]), tail)
 | '/' :: rest => (['/'], rest)
 | drive :: ':' :: '/' :: rest =>
  if drive.toNat < 0x10000 then ([drive, ':', '/'], rest) else ([], drive :: ':' :: '/' :: rest)
 | [drive, ':'] => if drive.toNat < 0x10000 then ([drive, ':'], []) else ([], [drive, ':'])
 | path => ([], path)

variable (path : String)
def root := String.ofList (splitRoot path.toList).1
def afterRoot := String.ofList (splitRoot path.toList).2
def rootLength := Text.lengthOf (root path)
def isRooted := root path != ""
def isRoot := isRooted path && afterRoot path == ""
def withSlashes := path.map fun char => if char == '\\' then '/' else char
def hasTrailSep := path.endsWith "/" || path.endsWith "\\"
def ensureTrailSep := if hasTrailSep path then path else path ++ "/"
def stripTrailSep := if hasTrailSep path then String.ofList path.toList.dropLast else path

/-! Components. -/

def resolveDots (above : Bool) : Strings -> Strings -> Strings
 | kept, [] => kept.reverse
 | kept, segment :: rest =>
  if segment == "" || segment == "." then resolveDots above kept rest
  else if segment == ".." then
   match kept with
   | [] => resolveDots above (if above then [segment] else []) rest
   | last :: before =>
    if last == ".." then resolveDots above (segment :: kept) rest else resolveDots above before rest
  else resolveDots above (segment :: kept) rest

def reduce : Strings -> Strings
 | [] => []
 | root :: rest => root :: resolveDots (root == "") [] rest

def comps :=
 let path := withSlashes path
 let pieces := (splitAtEach '/' (afterRoot path).toList).map String.ofList
 reduce (root path :: (if pieces.getLast? == some "" then pieces.dropLast else pieces))

def ofComps : Strings -> String
 | [] => ""
 | root :: rest => withSlashes ((if root == "" then "" else ensureTrailSep root) ++ "/".intercalate rest)

/-! Joining. -/

def joinOne (path relative : String) :=
 if relative == "" then path
 else if path == "" || isRooted relative then relative
 else if path.endsWith "/" then path ++ relative
 else path ++ "/" ++ relative

variable (start stop : String) (ignoreCase : Bool) (others : Strings)
def combine := (others.map withSlashes).foldl joinOne (withSlashes path)

def normalize :=
 if path == "" then "."
 else
  let absolute := path.startsWith "/"
  let trail := if path.endsWith "/" then "/" else ""
  let joined := "/".intercalate (resolveDots (!absolute) [] ((splitAtEach '/' path.toList).map String.ofList))
  withSlashes
   (if joined == "" then if absolute then "/" else "." ++ trail else (if absolute then "/" else "") ++ joined ++ trail)

def resolve := normalize (combine path others)

/-! Names and extensions. -/

def fileName := String.ofList ((path.toList.reverse.dropWhile (· == '/')).takeWhile (· != '/')).reverse

def dir :=
 let before := if let some (before, _) := cutBeforeLast? '/' path.toList then String.ofList before else ""
 if rootLength path < Text.lengthOf before then before else root path

def ext :=
 let name := fileName path
 if let some (before, hit) := cutBeforeLast? '.' name.toList then
  if before.isEmpty || name == ".." then "" else String.ofList hit
 else ""

def longExt :=
 let name := (fileName path).toList
 match name.dropWhile (· != '.') with
 | [] => String.ofList name.getLast?.toList
 | hit => String.ofList hit

def dropEnd (path ending : String) := String.ofList (path.toList.take (path.length - ending.length))
def stripExt := dropEnd path (ext path)
def stripLongExt := dropEnd path (longExt path)
def hasSrcExt := path.endsWith ".py" || path.endsWith ".pyi"

/-! Comparison. -/

variable (lhs rhs : String)
def equalIgnoringCase := lhs == rhs || upperCase lhs == upperCase rhs
def equalNames := if ignoreCase then equalIgnoringCase lhs rhs else lhs == rhs

def sharedLength (same : Nat -> String -> String -> Bool) (idx : Nat) : Strings -> Strings -> Nat
 | lhs :: lefts, rhs :: rights => if same idx lhs rhs then sharedLength same (idx + 1) lefts rights + 1 else 0
 | _, _ => 0

def sharedComps (ignoreCase : Bool) := sharedLength (fun idx => equalNames (idx == 0 || ignoreCase)) 0

def contains (parent child : String) (ignoreCase : Bool) :=
 parent == child || sharedComps ignoreCase (comps parent) (comps child) == (comps parent).length

def containsFrom (dir parent child : String) := contains (combine dir [parent]) (combine dir [child])

def relative? (path parent : String) :=
 if path.startsWith (ensureTrailSep parent) then
  some ("/".intercalate ("." :: (comps path).drop (comps parent).length))
 else none

def mixedRoots := "Debug Failure. False expression: Paths must either both be absolute or both be relative"

def compsBetween? : Except String Strings :=
 if isRooted start != isRooted stop then .error mixedRoots
 else
  let first := comps start
  let last := comps stop
  let shared := sharedComps ignoreCase first last
  .ok (if shared == 0 then last else "" :: (.replicate (first.length - shared) ".." ++ last.drop shared))

def between? := (compsBetween? start stop ignoreCase).map ofComps

/-! Names with chosen extensions. -/

def matchingExt? (path ext : String) :=
 let ext := if ext.startsWith "." then ext else "." ++ ext
 let hit := path.toList.drop (path.length - ext.length)
 if ext.length <= path.length && hit.head? == some '.' && equalNames ignoreCase (String.ofList hit) ext then
  some (String.ofList hit)
 else none

def knownExt (extensions : Strings) (ignoreCase : Bool) :=
 (extensions.findSome? (matchingExt? ignoreCase (stripTrailSep path))).getD ""

def baseName :=
 let path := withSlashes path
 if afterRoot path == "" then ""
 else
  let path := stripTrailSep path
  if let some (_, hit) := cutBeforeLast? '/' (afterRoot path).toList then String.ofList (hit.drop 1)
  else afterRoot path

def baseExt := if let some (_, hit) := cutBeforeLast? '.' (baseName path).toList then String.ofList hit else ""
def anyExt (known : Option Strings) (ignoreCase : Bool) := known.elim (baseExt path) (knownExt path · ignoreCase)
def plainName (known : Option Strings) (ignoreCase : Bool) := dropEnd (baseName path) (anyExt (baseName path) known ignoreCase)

def replaceExt (path hit repl : String) :=
 if hit == "" then path else dropEnd path hit ++ (if repl.startsWith "." then repl else "." ++ repl)

def shorten (limit : Nat) :=
 let folder := Text.ofString (dir path)
 if limit < folder.size then
  .ofString "..." ++ folder.slice (folder.size - limit) folder.size ++ .ofString ("/" ++ fileName path)
 else .ofString path

end TypeChecker.Path
namespace TypeChecker

inductive PatPiece where
 | unit (val : UInt16)
 | anyRun
 | anyUnit
 | anyComps

structure PathPat where
 pieces : List PatPiece
 isCased : Bool

namespace PathPat

def slash : UInt16 := 0x2F

variable (unit : UInt16)
def pieceOf : PatPiece := if unit == 0x2A then .anyRun else if unit == 0x3F then .anyUnit else .unit unit

def piecesOf (isFirst : Bool) : Strings -> List PatPiece
 | [] => []
 | component :: rest =>
  if component == "**" then .anyComps :: piecesOf isFirst rest
  else
   let units := (Text.ofString component).toList.map pieceOf
   (if isFirst then units else .unit slash :: units) ++ piecesOf false rest

def ofComps (comps : Strings) :=
 piecesOf true (match comps with
  | [] => []
  | root :: rest => Path.stripTrailSep root :: rest)

/-! The pattern as a regular expression. -/

def unitSrc : Text := if isWordUnit unit || isBlank unit || unit == slash then #[unit] else #[0x5C, unit]

def pieceSrc : PatPiece -> Text
 | .unit val => unitSrc val
 | .anyRun => .ofString "[^/]*"
 | .anyUnit => .ofString "[^/]"
 | .anyComps => .ofString "(/[^/][^/]*)*?"

def src (pieces : List PatPiece) := pieces.foldl (fun text piece => text ++ pieceSrc piece) #[]

def delimitedUnit : Text :=
 if unit == slash then #[0x5C, slash]
 else if unit == 0x0A then .ofString "\\n"
 else if unit == 0x0D then .ofString "\\r"
 else if unit == 0x2028 then .ofString "\\u2028"
 else if unit == 0x2029 then .ofString "\\u2029"
 else #[unit]

def delimitedSrc : PatPiece -> Text
 | .unit val => if isWordUnit val || isBlank val || val == slash then delimitedUnit val else #[0x5C, val]
 | .anyComps => .ofString "(\\/[^/][^/]*)*?"
 | piece => pieceSrc piece

variable (pat : PathPat)
def expr := pat.pieces.foldl (fun text piece => text ++ delimitedSrc piece) (.ofString "^(") ++ .ofString ")($|\\/)"

def flags := if pat.isCased then "" else "i"

/-! Matching. -/

def matchesUnits : List PatPiece -> List UInt16 -> Bool
 | [], [] => true
 | [], head :: _ => head == slash
 | .unit _ :: _, [] => false
 | .unit val :: pieces, head :: text => val == head && matchesUnits pieces text
 | .anyUnit :: _, [] => false
 | .anyUnit :: pieces, head :: text => head != slash && matchesUnits pieces text
 | .anyRun :: pieces, [] => matchesUnits pieces []
 | .anyRun :: pieces, head :: text =>
  matchesUnits pieces (head :: text) || head != slash && matchesUnits (.anyRun :: pieces) text
 | .anyComps :: pieces, first :: second :: text =>
  matchesUnits pieces (first :: second :: text) ||
   first == slash && second != slash && matchesUnits (.anyRun :: .anyComps :: pieces) text
 | .anyComps :: pieces, text => matchesUnits pieces text
 termination_by pieces text => (text.length, pieces.length)

def foldPiece : PatPiece -> PatPiece
 | .unit val => .unit (foldedUnit val)
 | piece => piece

def isMatch (path : String) :=
 let units := (Text.ofString path).toList
 if pat.isCased then matchesUnits pat.pieces units
 else matchesUnits (pat.pieces.map foldPiece) (units.map foldedUnit)

end PathPat

/-! Patterns written relative to a directory, as path texts. -/

namespace Path
variable (root pat : String)
def patPath :=
 let path := normalize (combine root [pat])
 if hasSrcExt path then path else ensureTrailSep path

def escapedSep (sep : String) := if sep == "/" then "/" else "\\\\"
def patSrc := PathPat.src (PathPat.ofComps (comps (patPath root pat)))
def hasComponentWildcard (pat : String) := (comps (normalize pat)).contains "**"
def hasWild (component : String) := component.any fun char => char == '*' || char == '?'

def patRoot :=
 match comps (patPath root pat) with
 | [] => ""
 | first :: rest =>
  let first := stripTrailSep first
  if rest.isEmpty && first == "" then "/" else "/".intercalate ((first :: rest).takeWhile (!hasWild ·))

end Path
open TypeChecker.Path
structure FileLocation where
 path : String
 (query fragment : String := "")
 isCased := true

inductive Uri where
 | empty
 | file (location : FileLocation)

namespace Uri

def create (path : String) (isCased : Bool) (query fragment := "") : Uri :=
 .file {path := if isRoot path then ensureTrailSep path else path, query, fragment, isCased}

def ofPath (path : String) (isCased : Bool := true) := if path == "" then .empty else create path isCased

def isEmpty : Uri -> Bool
 | .empty => true
 | .file _ => false

def location : Uri -> FileLocation
 | .empty => {path := ""}
 | .file location => location

variable (uri : Uri)
def filePath := uri.location.path
def path := withSlashes uri.filePath
def query := uri.location.query
def fragment := uri.location.fragment
def isCased := uri.location.isCased

def scheme : Uri -> String
 | .empty => ""
 | .file _ => "file"

def key : Uri -> String
 | .empty => "<empty>"
 | .file location =>
  let full := location.path ++ (if location.query == "" then "" else "?" ++ location.query) ++
   (if location.fragment == "" then "" else "#" ++ location.fragment)
  if location.isCased then full else lowerCase full

def isSame : Uri -> Uri -> Bool
 | .empty, .empty => true
 | .empty, .file _ => false
 | lhs, rhs => lhs.key == rhs.key

def fileName := Path.fileName uri.filePath

def bareName :=
 if let some (before, _) := cutBeforeLast? '.' uri.fileName.toList then
  if before.isEmpty then uri.fileName else String.ofList before
 else uri.fileName

def ext := Path.ext uri.filePath
def rootPath := root uri.filePath

variable (change : String -> String) (others : Strings)
def withPath (query fragment := "") : Uri :=
 let path := change uri.filePath
 if uri.isEmpty || path == uri.filePath then uri else create path uri.isCased query fragment

def root := uri.withPath Path.root
def addPath (extra : String) := if uri.isEmpty then .empty else create (uri.filePath ++ extra) uri.isCased
def dropSep (path : String) := if 1 < path.length then stripTrailSep path else path
def resolve := uri.withPath fun path => dropSep (Path.resolve path others)
def join := uri.withPath (others.foldl joinOne ·)
def needsResolving (path : String) := path == "." || path.contains '/' || 1 < (path.splitOn "..").length
def combine := if others.any needsResolving then uri.resolve others else uri.join others
def dir := uri.withPath fun path => dropSep (Path.dir path)

/-- The files of a package. -/
def pkgFile := uri.addPath ".py"
def pkgStub := uri.addPath ".pyi"
def initFile := uri.join ["__init__.py"]
def initStub := uri.join ["__init__.pyi"]
def typedMark := uri.join ["py.typed"]
def pathIncludes (part : String) := part == "" || 1 < (uri.path.splitOn part).length

def withFragment (fragment : String) :=
 if uri.isEmpty then .empty else create uri.filePath uri.isCased uri.query fragment

def withQuery (query : String) := if uri.isEmpty then .empty else create uri.filePath uri.isCased query uri.fragment

def withOnlyPath := uri.withPath change uri.query uri.fragment
def stripExt := uri.withOnlyPath Path.stripExt
def stripLongExt := uri.withOnlyPath Path.stripLongExt
variable (ext : String)
def replaceExt := uri.dir.join [dropEnd uri.fileName uri.ext ++ ext]

def isRoot : Uri -> Bool
 | .empty => false
 | .file location => Path.isRoot location.path

def isLocal := !uri.isEmpty
def pathLength := Text.lengthOf uri.filePath

def startsWith : Uri -> Uri -> Bool
 | .file child, .file parent =>
  let size := Text.lengthOf child.path
  let parentSize := Text.lengthOf parent.path
  parentSize <= size && (let start := if parentSize < size then ensureTrailSep parent.path else parent.path
   if child.isCased then child.path.startsWith start
   else (lowerCase child.path).startsWith (lowerCase start))
 | _, _ => false

def isChildOf (child parent : Uri) := !parent.isEmpty && parent.pathLength < child.pathLength && child.startsWith parent

def comps : Uri -> Strings
 | .empty => []
 | .file location =>
  match Path.comps location.path with
  | "" :: rest => rest
  | comps => comps

def sameName (lhs rhs : String) := if uri.isCased then lhs == rhs else lowerCase lhs == lowerCase rhs

def compsTo (start stop : Uri) :=
 let first := start.comps
 let last := stop.comps
 let shared := sharedLength (fun _ => start.sameName) 0 first last
 if shared == 0 then last else .replicate (first.length - shared) ".." ++ last.drop shared

def relativePath? (parent child : Uri) : String? :=
 if parent.scheme == child.scheme && child.isChildOf parent then
  match parent.compsTo child with
  | [] => none
  | comps => "/".intercalate ("." :: comps)
 else none

def hasExt := uri.sameName uri.ext ext

def dottedPieces (name : String) :=
 match splitAtEach '.' name.toList with
 | [] => []
 | first :: rest =>
  (if first.isEmpty && !rest.isEmpty then [] else [String.ofList first]) ++
   rest.map fun piece => String.ofList ('.' :: piece)

def containsExt := (dottedPieces uri.fileName).any (uri.sameName · ext)
def hasSrcExt := uri.hasExt ".py" || uri.hasExt ".pyi"

/-! Directories. -/

def ancestors := go (uri.filePath.length + 1) uri
where
 go : Nat -> Uri -> List Uri
  | 0, uri => [uri]
  | fuel + 1, uri => if uri.dir.isSame uri then [uri] else uri :: go fuel uri.dir

inductive DirChange where
 | same
 | renamed
 | moved

def changeTo (before after : Uri) : DirChange :=
 if before.isSame after then .same
 else if let [up, name] := before.compsTo after then if up == ".." && name != ".." then .renamed else .moved else .moved

def addFolder (excluded folders : List Uri) (folder : Uri) :=
 if folders.any (·.key == folder.key) || excluded.any (folder.startsWith ·) then folders
 else if let some other := folders.find? fun other => folder.startsWith other || other.startsWith folder then
   if folder.startsWith other then folders else folders.filter (·.key != other.key) ++ [folder]
  else folders ++ [folder]

def distinctFolders (folders excluded : List Uri) := folders.foldl (addFolder excluded) []

end Uri

/-! Patterns of files below a directory. -/

structure FileSpec where
 root : Uri
 pat : PathPat
 hasComponentWildcard : Bool

namespace FileSpec
variable (base : Uri)
def rootOf (pat : String) :=
 let path := base.resolve [pat]
 ((path.comps.drop 1).takeWhile (!hasWild ·)).foldl (fun uri component => uri.resolve [component]) path.root

def create (pat : String) : FileSpec :=
 {root := rootOf base pat, pat := ⟨PathPat.ofComps (base.resolve [pat]).comps, base.isCased⟩
  hasComponentWildcard := Path.hasComponentWildcard pat}

def isMatch (spec : FileSpec) : Uri -> Bool
 | .empty => false
 | uri => spec.pat.isMatch uri.path

def anyMatch (specs : List FileSpec) (uri : Uri) := specs.any (·.isMatch uri)

end FileSpec

/-! Tables by location. -/

structure UriTable (α : Type) where
 ents : List (Uri × α)

namespace UriTable
variable {α : Type} (table : UriTable α) (uri : Uri)
def get? := (table.ents.find? (·.1.key == uri.key)).map (·.2)
def contains := table.ents.any (·.1.key == uri.key)

def insert (val : α) : UriTable α :=
 if table.contains uri then ⟨table.ents.map fun ent => if ent.1.key == uri.key then (uri, val) else ent⟩
 else ⟨table.ents ++ [(uri, val)]⟩

def erase : UriTable α := ⟨table.ents.filter (·.1.key != uri.key)⟩

end UriTable
end TypeChecker
