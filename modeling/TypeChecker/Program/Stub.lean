import TypeChecker.Program.Files

/-! Drafts of stubs: the declarations of a source without its values and bodies. -/

namespace TypeChecker

structure BroughtName where
 name : String
 asName : String?

namespace BroughtName
variable (brought : BroughtName)
def shown := brought.asName.getD brought.name
def text := brought.name ++ brought.asName.elim "" (" as " ++ ·)

end BroughtName

structure BroughtFrom where
 modName : String
 isWildcard : Bool
 names : List BroughtName := []

structure StubDraft where
 text := ""
 wroteBody := false
 mayDoc := true
 names : Std.HashSet String := {}
 mods : List BroughtName := []
 brought : List BroughtFrom := []

namespace StubDraft
open Infer Check
structure Place where
 bound : BoundMod
 depth := 0
 (inCls inFn inIf : Bool := false)

abbrev Writing := StateT StubDraft Eval

variable [Evals] (place : Place)
def line (text : String) : Writing Unit :=
 let tokenized := place.bound.src.tokenized
 modify fun s => {s with
  text := s.text ++ String.join (.replicate place.depth tokenized.tab) ++ text ++ tokenized.endOfLine}

def namesWithin (bound : BoundMod) : Nat -> Nodes -> Std.HashSet String -> Std.HashSet String
 | 0, _, names | _, [], names => names
 | fuel + 1, node :: rest, names =>
  if bound.isDead node then namesWithin bound fuel rest names
  else namesWithin bound fuel (node.kids ++ rest)
   (node.dottedNames?.elim names fun parts => names.insert (".".intercalate (parts.map (·.nameVal))))

variable (fn : FnParts Node) (lhs rhs node : Node)
def expr (isHint : Bool := false) : Writing String := do
 modify fun s => {s with names := namesWithin place.bound Node.maxCount [node] s.names}
 return node.print {showsFwdRefs := isHint, showsLongStrings := true}

def part (mark : String) (node : Node?) (isHint : Bool := false) : Writing String := do
 let some node := node | pure ""
 return mark ++ (<- expr place node isHint)

def parText (idx : Nat) := do
 let some parts := node.parParts? | pure ""
 let name := match parts.cat with
  | .simple => parts.name.elim "/" (·.nameVal)
  | .argsList => "*" ++ parts.name.elim "" (·.nameVal)
  | .kwargsDict => "**" ++ parts.name.elim "" (·.nameVal)
 let hint <- part place ": " (Node.hintOfPar? fn idx) true
 return name ++ hint ++ (if parts.dfltVal.isNone then "" else if hint == "" then "=..." else " = ...")

def tyPar := do
 let .tyPar name kind bound val := node.kind | pure ""
 let stars := match kind with | .tyVar => "" | .tyVarTup => "*" | .parSpec => "**"
 return stars ++ name.nameVal ++ (<- part place ": " bound) ++ (<- part place " = " val)

def tyParameters : Node? -> Writing String
 | some list => return "[" ++ ",".intercalate (<- list.kids.mapM (tyPar place)) ++ "]"
 | none => pure ""

def body (write : Writing Unit) : Writing Unit := do
 let before := (<- get).wroteBody
 modify ({· with wroteBody := false})
 write
 if !(<- get).wroteBody then line place "..."
 modify ({· with wroteBody := before})

def begin (decos : Nodes) : Writing Unit := do
 modify ({· with wroteBody := true, mayDoc := true})
 decos.forM fun deco => do line place ("@" ++ (<- expr place (decoExpr deco)))

def retOfName? : String -> String?
 | "__init__" => "None"
 | "__str__" => "str"
 | "__int__" | "__hash__" => "int"
 | "__eq__" | "__ne__" | "__gt__" | "__lt__" | "__ge__" | "__le__" => "bool"
 | _ => none

def retCmt := do
 let some hit <- tyOfFn node | pure ""
 let ret := (<- inferredRet hit.fnTy none).ty
 let ret := if ret.isUnion then ret.removeMems Ty.isUnk else ret
 if ret.isNever || ret.isUnk then return ""
 return " # -> " ++ (<- printTy ret {asCode := true, unkAsAny := true, omitConds := true}) ++ ":"

def sig (parts : FnParts Node) := do
 let name := parts.name.nameVal
 let tyPars <- tyParameters place parts.tyPars
 let pars <- parts.pars.zipIdx.mapM fun (par, idx) => parText place parts par idx
 let hint := parts.retHint.or (parts.hintCmt.bind fun cmt => if let .fnTyCmt _ _ hint := cmt.kind then hint else none)
 let ret <- part place " -> " hint true
 let ret := if hint.isSome then ret else (retOfName? name).elim "" (" -> " ++ ·)
 let cmt <- if ret == "" then (retCmt node) else pure ""
 return (if parts.isAsync then "async def " else "def ") ++ name ++ tyPars ++ "(" ++ commaList pars ++ ")" ++
  ret ++ ":" ++ cmt

def keepsVal : Ask := do
 if let .annot _ hint := lhs.kind then
  let declared <- tyOfAnnot hint {varTyAnnot := true, allowClsVar := true}
  return declared.isObjOf "TypeAlias"
 if (<- tyAt? lhs).any (·.aliasUse?.isSome) then return true
 let .call callee .. := rhs.kind | pure false
 return (<- tyAt? callee).any fun ty => ty.isClsObj && ty.isBuiltIn ["TypeVar", "TypeVarTuple", "ParamSpec", "NewType"]

def assignment (cmt : Node?) : Writing Unit := do
 let write start isKept := do
  modify ({· with wroteBody := true})
  line place (start ++ " = " ++ (<- if isKept then expr place rhs else pure "..."))
 match lhs.kind with
 | .name "__all__" _ => if !place.inFn && !place.inIf then write (<- expr place lhs) true
 | .name .. =>
  if !place.inFn then write ((<- expr place lhs) ++ (<- part place ": " cmt true)) (<- keepsVal lhs rhs)
 | .annot val hint =>
  if !place.inFn && val.kind matches .name .. then
   write ((<- expr place val) ++ (<- part place ": " hint true)) (<- keepsVal lhs rhs)
 | _ => pure ()

def isDecl (val : Node) := match val.kind with
 | .name .. => true
 | .memAccess lhs mem => lhs.nameVal? == some "self" && !Name.isPrivateOrProtected mem.nameVal
 | _ => false

def modNameOf : String := if let .modName dots parts _ := node.kind then
  String.ofList (.replicate dots '.') ++ ".".intercalate (parts.map (·.nameVal))
 else ""

def brought? (shown name : String) (asName : Node?) : Eval (Option BroughtName) := do
 let asName := asName.map (·.nameVal)
 let hit <- lookUpName node (asName.getD shown) false
 return hit.map fun _ => {name, asName}

def importMod : Writing Unit := do
 let .importAs modName asName := node.kind | return
 let name := modNameOf modName
 if (<- get).mods.any (·.name == name) then return
 let brought <- brought? node (modName.kids.head?.elim "" (·.nameVal)) name asName
 modify fun s => {s with mods := s.mods ++ brought.toList}

def importFrom (parts : ImportFromParts Node) : Writing Unit := do
 let modName := modNameOf parts.modName
 if !(<- get).brought.any (·.modName == modName) then
  modify fun s => {s with brought := s.brought ++ [{modName, isWildcard := parts.isWildcard}]}
 for node in parts.imports do
  if let .importFromAs name asName := node.kind then
   let brought <- brought? node name.nameVal name.nameVal asName
   modify fun s => { s with brought := s.brought.map fun group =>
    if group.modName != modName then group
    else {group with names := group.names ++ brought.toList.filter fun new => group.names.all (·.name != new.name)}}

def write : Nat -> Place -> Node -> Writing Unit
 | 0, _, _ => pure ()
 | fuel + 1, place, node => do
  let writeAll (place : Place) (nodes : Nodes) := nodes.forM (write fuel place)
  let inner := {place with depth := place.depth + 1}
  let isAtTop := !place.inFn && !place.inCls
  if place.bound.isDead node then return
  match node.kind with
  | .clsDef parts =>
   begin place parts.decos
   let tyPars <- tyParameters place parts.tyPars
   let args <- parts.args.filterMapM fun arg => do
    let .arg cat name val := arg.kind | pure none
    if name.isNone && cat == .simple && val.nameVal? == some "object" then return none
    pure (name.elim "" (·.nameVal ++ "=") ++ (<- expr place val))
   let args := if args.isEmpty then "" else "(" ++ commaList args ++ ")"
   line place ("class " ++ parts.name.nameVal ++ tyPars ++ args ++ ":")
   body inner (write fuel {inner with inCls := true} parts.suite)
   line place ""
   line place ""
  | .fnDef parts =>
   if place.inFn || Name.isPrivateOrProtected parts.name.nameVal then return
   begin place parts.decos
   line place (<- sig place node parts)
   body inner (write fuel {inner with inFn := true} parts.suite)
   line place ""
  | .whileStmt .. | .forStmt _ | .withStmt _ => modify ({· with mayDoc := false})
  | .tryStmt parts =>
   modify ({· with mayDoc := false})
   write fuel place parts.suite
  | .ifStmt _ test suite orElse =>
   modify ({· with mayDoc := false})
   if place.inFn || place.inIf then return
   modify ({· with wroteBody := true})
   let inner := {inner with inIf := true}
   line place ("if " ++ (<- expr place test) ++ ":")
   body inner (writeAll inner suite.kids)
   if let some orElse := orElse then
    line place "else:"
    body inner (writeAll inner orElse.kids)
  | .tyAlias _ name pars val =>
   line place ((<- expr place name) ++ (<- tyParameters place pars) ++ " = " ++ (<- expr place val))
  | .assignment lhs rhs cmt _ => assignment place lhs rhs cmt
  | .augmented lhs .addEqual rhs _ =>
   if lhs.nameVal? == some "__all__" && !place.inFn && !place.inIf then
    line place ((<- expr place lhs) ++ " += " ++ (<- expr place rhs))
  | .augmented .. => pure ()
  | .annot val hint =>
   if !place.inFn && isDecl val then line place ((<- expr place val) ++ (<- part place ": " hint true))
  | .importStmt imports => if isAtTop then imports.forM importMod
  | .importFrom parts => if isAtTop then importFrom parts
  | .stmtList _ stmts =>
   if let some first := stmts.head?.filter (·.kind matches .strList ..) then
    let draft <- get
    if !draft.wroteBody && draft.mayDoc then line place (<- expr place first)
   modify ({· with mayDoc := false})
   writeAll place stmts
  | _ => writeAll place node.kids

def finish (draft : StubDraft) (endOfLine : String) (keepsImports : Bool) :=
 let isUsed brought := keepsImports || draft.names.contains brought.shown
 let groups := draft.brought.flatMap fun group =>
  let start := "from " ++ group.modName ++ " import "
  let used := (group.names.filter isUsed).mergeSort fun lhs rhs => !unitsLess rhs.name lhs.name
  (if group.isWildcard then [start ++ "*"] else []) ++
   if used.isEmpty || group.modName == "__future__" then [] else [start ++ commaList (used.map (·.text))]
 let imports := ((draft.mods.filter isUsed).map ("import " ++ ·.text)) ++ groups
 let lines := ["\"\"\"", "This type stub file was generated by pyright.", "\"\"\"", ""] ++ imports ++
  if imports.isEmpty then [] else [""]
 String.join (lines.map (· ++ endOfLine)) ++ draft.text

end StubDraft
namespace Prog
variable (prog : Prog)
def stub? (path : String) (isPkg : Bool) : String? × Prog :=
 prog.runOn path fun bound => do
  let (_, draft) <- (@StubDraft.write Check.evals Node.maxHeight {bound} bound.src.tree).run {}
  return draft.finish bound.src.tokenized.endOfLine isPkg

def stubs (folder : String) (isSingle : Bool) (tgt : String) : ByName String × Prog :=
 (prog.files.map (·.path)).foldl (fun (hit, prog) path =>
  match (Uri.ofPath folder).relativePath? (.ofPath path) with
  | none => (hit, prog)
  | some relative =>
   let place := (Uri.ofPath tgt).resolve [relative]
   let place := if isSingle then place.dir.join ["__init__.pyi"] else place.replaceExt ".pyi"
   let (text, prog) := prog.stub? path (place.fileName == "__init__.pyi")
   (hit.filter (·.1 != place.filePath) ++ text.toList.map (place.filePath, ·), prog)) ([], prog)

end Prog
end TypeChecker
