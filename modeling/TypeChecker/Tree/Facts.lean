import TypeChecker.Tree.Enclosing
import TypeChecker.Decimal.Shortest

/-! Facts about single nodes, and the nodes and tokens at an offset. -/

namespace TypeChecker
namespace Node
variable (tree : Node) (slots : Array Node?) (node : Node) (pos : Int)
def childSlots :=
 match node.kind with
 | .error _ child decos => child :: decos.map some
 | .clsDef parts =>
  parts.decos.map some ++ [some parts.name, parts.tyPars] ++ parts.args.map some ++ [some parts.suite]
 | .fnDef parts =>
  parts.decos.map some ++ [some parts.name, parts.tyPars] ++ parts.pars.map some ++
   [parts.retHint, parts.hintCmt, parts.suite]
 | .patAs orPats tgt => orPats.map some ++ [tgt]
 | .tryStmt parts => parts.suite :: (parts.clauses.map some ++ [parts.orElse, parts.finalSuite])
 | _ => node.kids.map some

def hasOrderedKids := !(node.kind matches .assignment .. | .strList ..)
def bisectionLimit := 20

def firstReaching : Nat -> Nat -> Nat
 | 0, hit => hit
 | idx + 1, hit =>
  if let some child := slots.getD idx none then if child.span.overlaps pos then firstReaching idx idx else hit
  else firstReaching idx hit

def picksAt :=
 let slots := node.childSlots.toArray
 if node.hasOrderedKids && bisectionLimit < slots.size then
  if let some idx := SpanTable.idxOfEntry? Node.span slots pos (fun child pos => child.span.overlaps pos) then
   (slots.getD (firstReaching slots pos idx idx) none).toList
  else node.kids
 else node.kids

def atIn : Nat -> Node -> Node?
 | 0, _ => none
 | fuel + 1, node =>
  if !node.span.overlaps pos then none
  else if let some hit := (node.picksAt pos).findSome? (atIn fuel) then
    if let .augmented lhs _ _ dest := node.kind then if hit == lhs then dest else hit else hit
   else node

def at? := atIn pos maxHeight tree

end Node

/-! Tokens around an offset. -/

namespace TokenTable
variable (tokens : Array Token)
def idxAt? (pos : Int) := SpanTable.idxAt? Token.span tokens pos

def lastUpTo? (test : Token -> Bool) : Nat -> Nat?
 | 0 => none
 | idx + 1 => if (tokens[idx]?).any test then idx else lastUpTo? test idx

variable (tokens : Array Token) (pos : Int) (test : Token -> Bool)
def firstFrom? (start : Nat) := (List.range' start (tokens.size - start)).find? fun idx => (tokens[idx]?).any test

def lhsIdx? (countsLayout countsEmpty := false) : Nat? := do
 let idx <- idxAt? tokens pos
 lastUpTo? tokens (fun token =>
  (countsEmpty || token.span.length != 0) && (countsLayout || !token.isLayout) &&
   (token.stop : Int) <= pos) (idx + 1)

/-- The search is bounded by the length of the text and not by the number of tokens. -/
def idxAfter? : Except PlaceError Nat? :=
 let bound := (SpanTable.length Token.span tokens).toNat
 match (idxAt? tokens pos).map (firstFrom? tokens test) with
 | some none => if tokens.size < bound then .error .idxOutOfRange else .ok none
 | hit => .ok (hit.join.filter (· < bound))

def overlapping? : Token? := do
 let idx <- idxAt? tokens pos
 (tokens[idx]?).filter (·.span.overlaps pos)

def prevWord? := do
 let idx <- idxAt? tokens pos
 let hit <- lastUpTo? tokens (!·.isLayout) (idx + 1)
 tokens[hit]?

def nextMatching? := do
 let hit <- firstFrom? tokens test ((idxAt? tokens pos).elim 0 (· + 1))
 tokens[hit]?

def nextWord? := nextMatching? tokens pos (!·.isLayout)

def cmtsAt (idx : Nat) := if let some token := tokens[idx]? then go token.start idx token else #[]
where
 go (start : Nat) : Nat -> Token -> Array Cmt
  | 0, token => token.cmts
  | idx + 1, token =>
   if let some earlier := tokens[idx]? then
    if earlier.start == start then go start idx earlier else token.cmts
   else token.cmts

end TokenTable

/-! The call around an offset. -/

structure ActiveCall where
 call : Node
 activeIdx : Nat
 isInside : Bool

namespace ActiveCall
variable (tokens : Array Token)
def isInsideArgs (call lhs : Node) (args : Nodes) (pos : Int) :=
 let argStart := if 0 < lhs.span.length then (lhs.stop : Int) - 1 else lhs.start
 if pos < argStart || (call.stop : Int) < pos then false
 else
  let isAmongArgs := match args.head?, args.getLast? with
   | some first, some last => (first.start : Int) <= pos && pos < last.stop
   | _, _ => false
  if isAmongArgs then true
  else if let some idx := TokenTable.idxAt? tokens argStart then
    tokens[idx + 1]?.all fun next => !(next.cat == .openParen && pos < (next.stop : Int))
   else true

variable (arg : Node)
def argEnd :=
 if let some idx := TokenTable.idxAt? tokens arg.stop then
  match (TokenTable.firstFrom? tokens
    (fun token => token.cat matches .comma | .closeParen) idx).bind
    (tokens[·]?) with
  | some token => token.stop
  | none => arg.stop
 else arg.stop

def argStart :=
 if let some idx := TokenTable.idxAt? tokens arg.start then (tokens[idx - 1]?).elim arg.start (·.stop) else arg.start

variable (pos : Int)
def activeArg? : Nat -> Nodes -> Option (Nat × Bool)
 | _, [] => none
 | idx, arg :: rest =>
  if pos < argEnd tokens arg then some (idx, (argStart tokens arg : Int) <= pos)
  else activeArg? (idx + 1) rest

def callAround? : Nodes -> Option (Node × Nodes)
 | [] => none
 | node :: rest =>
  if let .call lhs args _ := node.kind then
   if isInsideArgs tokens node lhs args pos then (node, args) else callAround? rest
  else callAround? rest

def find? (anc : Anc) (tokens : Array Token) (node : Node) (pos : Int) : Option ActiveCall := do
 let (call, args) <- callAround? tokens pos (anc.ancestors node)
 if (call.stop : Int) < pos then none
 else
  let endsWithParen := ((TokenTable.idxAt? tokens ((call.stop : Int) - 1)).bind (tokens[·]?)).any (·.cat == .closeParen)
  if pos == (call.stop : Int) && endsWithParen then none
  else
   let (activeIdx, isInside) := (activeArg? tokens pos 0 args).getD (args.length + 1, false)
   pure {call, activeIdx, isInside}

end ActiveCall

/-! Whole statements. -/

namespace StmtRange
variable (tokens : Array Token) (lines : LineTable) (range : LineRange)
def sharesStart (start : Nat) :=
 (TokenTable.idxAt? tokens start).any fun idx =>
  let first := firstOnLine idx
  (((List.range' (first + 1) (idx - (first + 1))).reverse.filterMap (tokens[·]?)).find?
   fun token => !(token.kind matches .indent .. | .dedent ..)).any (!·.isNewLine)
where
 firstOnLine : Nat -> Nat
  | 0 => 0
  | idx + 1 =>
   let onLine := (tokens[idx + 1]?).any fun token => (lines.posOf token.stop).line == range.start.line
   if onLine then firstOnLine idx else idx + 1

def nextOnLine? (stop : Nat) : Token? :=
 (TokenTable.idxAt? tokens stop).bind fun idx =>
  let onLine := (tokens.toList.drop idx).takeWhile fun token => range.stop.line == (lines.posOf token.start).line
  let isEnd token := token.cat matches .semicolon | .newLine
  ((onLine.dropWhile (!isEnd ·)).dropWhile isEnd).head?

def ofNode (tokenized : TokenizedText) (node : Node) : LineRange :=
 let lines := tokenized.lines
 let range := lines.rangeOf node.span
 let start := if sharesStart tokenized.tokens lines range node.start then range.start else ⟨range.start.line, 0⟩
 if let some token := nextOnLine? tokenized.tokens lines range node.stop then ⟨start, lines.posOf token.start⟩
 else if range.stop.line == (lines.size : Int) - 1 then ⟨start, range.stop⟩ else ⟨start, ⟨range.stop.line + 1, 0⟩⟩

end StmtRange
open Text
structure PrintOpts where
 showsFwdRefs := false
 showsLongStrings := false

def maxShownStr := 32

namespace NumVal

def print : NumVal -> String
 | .plain val | .big val => toString val
 | .float val => Decimal.printFloat val

def sameAs : NumVal -> NumVal -> Bool
 | .plain lhs, .plain rhs | .big lhs, .big rhs | .float lhs, .float rhs => lhs == rhs
 | .plain lhs, .float rhs | .float rhs, .plain lhs => .ofNat lhs == rhs
 | _, _ => false

def isInteger : NumVal -> Bool
 | .float _ => false
 | _ => true

end NumVal
namespace Text

def join (sep : String) (parts : List Text) : Text :=
 match parts with
 | [] => #[]
 | first :: rest => rest.foldl (fun text part => text ++ ofString sep ++ part) first

end Text
namespace Printer
variable (flags : StrFlags)
def quoted (body : Text) :=
 let mark := if flags.singleQuote then "'" else "\""
 let mark := ofString (if flags.triplicate then mark ++ mark ++ mark else mark)
 mark ++ body ++ mark

def strMarks :=
 (if flags.raw then "r" else "") ++ (if flags.unicode then "u" else "") ++
 (if flags.bytes then "b" else "") ++ (if flags.format then "f" else "") ++
 (if flags.tmpl then "t" else "")

def parens (isParens : Bool) (text : Text) := if isParens then ofString "(" ++ text ++ ofString ")" else text

def const : Kw -> String
 | .trueKw => "True"
 | .falseKw => "False"
 | .debugKw => "__debug__"
 | .noneKw => "None"
 | _ => "<Expression>"

variable (write : Node -> Text)
def par (par : Node) : Text :=
 if let .par parts := par.kind then
  let stars := match parts.cat with
   | .simple => ""
   | .argsList => "*"
   | .kwargsDict => "**"
  let name := if let some name := parts.name then name.nameVal else if parts.cat == .simple then "/" else ""
  let val := if let some val := parts.dfltVal then ofString " = " ++ write val else #[]
  ofString (stars ++ name) ++ val
 else #[]

def argText (arg : Node) :=
 if let .arg cat name val := arg.kind then
  let stars := match cat with
   | .simple => ""
   | .unpList => "*"
   | .unpDict => "**"
  let label := if let some name := name then name.nameVal ++ "=" else ""
  ofString (stars ++ label) ++ write val
 else #[]

def clause (clause : Node) :=
 match clause.kind with
 | .comprFor asyncToken tgt iterable =>
  ofString (if asyncToken.isSome then "async for " else "for ") ++ write tgt ++ ofString " in " ++ write iterable
 | .comprIf test => ofString "if " ++ write test
 | _ => #[]

def ent (ent : Node) :=
 match ent.kind with
 | .dictKeyEnt key val => write key ++ ofString ": " ++ write val
 | .dictExpandEnt expr => ofString "**" ++ write expr
 | _ => write ent

def formatParts (middle : List Token) (fields : Nodes) :=
 let texts := middle.map fun token => (token.start, if let .fStrMiddle _ escaped := token.kind then escaped else #[])
 let vals := fields.map fun field => (field.start, ofString "\x7b" ++ write field ++ ofString "\x7d")
 ((texts ++ vals).mergeSort fun lhs rhs => lhs.1 <= rhs.1).map (·.2)

def slice (start stop step : Node?) :=
 if start.isNone && stop.isNone && step.isNone then ofString ":"
 else
  let after part := if let some part := part then ofString ": " ++ write part else #[]
  (start.elim #[] write) ++ after stop ++ after step

def exprIn : Nat -> PrintOpts -> Node -> Text
 | 0, _, _ => #[]
 | fuel + 1, opts, node =>
  let write := exprIn fuel opts
  let text := ofString
  let list nodes := join ", " (nodes.map write)
  match node.kind with
  | .name val _ => text val
  | .memAccess lhs mem => write lhs ++ text ("." ++ mem.nameVal)
  | .call lhs args _ =>
   let bare := lhs.kind matches .memAccess .. | .name .. | .idx .. | .call ..
   parens (!bare) (write lhs) ++ text "(" ++ join ", " (args.map (argText write)) ++ text ")"
  | .idx lhs items trailComma =>
   write lhs ++ text "[" ++ join ", " (items.map (argText write)) ++ text (if trailComma then ",]" else "]")
  | .unary _ op expr hasParens => parens hasParens (text op.sym ++ write expr)
  | .binary lhs _ op rhs hasParens => parens hasParens (write lhs ++ text (" " ++ op.sym ++ " ") ++ write rhs)
  | .number val isImag => text (val.print ++ if isImag then "j" else "")
  | .strList strings fwdRef _ =>
   match opts.showsFwdRefs, fwdRef with
   | true, some expr => write expr
   | _, _ => join " " (strings.map write)
  | .string token _ =>
   if let .string flags escaped _ := token.kind then
    let shown := if opts.showsLongStrings then escaped else escaped.slice 0 maxShownStr
    text (strMarks flags) ++ quoted flags shown
   else #[]
  | .formatStr token middle fields _ =>
   let flags := if let .fStrStart flags _ := token.kind then flags else {}
   text "f" ++ quoted flags (join "" (formatParts (exprIn fuel {}) middle fields))
  | .assignment lhs rhs _ _ => write lhs ++ text " = " ++ write rhs
  | .walrus name _ rhs _ => write name ++ text " := " ++ write rhs
  | .annot val hint => write val ++ text ": " ++ write hint
  | .augmented lhs op rhs _ => write lhs ++ text (" " ++ op.sym ++ " ") ++ write rhs
  | .await _ expr hasParens => parens hasParens (text "await " ++ write expr)
  | .ternary ifExpr test elseExpr => write ifExpr ++ text " if " ++ write test ++ text " else " ++ write elseExpr
  | .list items => text "[" ++ list items ++ text "]"
  | .unpack _ expr => text "*" ++ write expr
  | .tup [item] _ => text "(" ++ write item ++ text ", )"
  | .tup items _ => text "(" ++ list items ++ text ")"
  | .yieldExpr none => text "yield"
  | .yieldExpr (some expr) => text "yield " ++ write expr
  | .yieldFrom expr => text "yield from " ++ write expr
  | .ellipsis => text "..."
  | .compr expr forIfs _ hasParens =>
   let item :=
    if expr.isExpr then write expr
    else if let .dictKeyEnt .. := expr.kind then ent write expr else text "<ListExpression>"
   parens hasParens (item ++ text " " ++ join " " (forIfs.map (clause write)))
  | .slice start stop step => slice write start stop step
  | .lambda pars expr => text "lambda " ++ join ", " (pars.map (par write)) ++ text ": " ++ write expr
  | .const kw => text (const kw)
  | .dict items _ =>
   let contents := join "," (items.map (ent write))
   if contents.isEmpty then text "\x7b\x7d" else text "\x7b " ++ contents ++ text " \x7d"
  | .set items => list items
  | .error .. => text "<Parse Error>"
  | _ => #[]

end Printer

def Node.printText (node : Node) (opts : PrintOpts := {}) := Printer.exprIn Node.maxHeight opts node
def Node.print (node : Node) (opts : PrintOpts := {}) := Text.toString (node.printText opts)

/-- What names an item of a reference. -/
inductive Subscript where
 | num (sign : String) (val : NumVal) (isImag : Bool)
 | str (val : Text)

namespace Subscript

def isSimple : Subscript -> Bool
 | num _ val isImag => val.isInteger && !isImag
 | str _ => true

def key : Subscript -> String
 | num sign val _ => "[" ++ sign ++ val.print ++ "]"
 | str val => "[\"" ++ val.toString ++ "\"]"

def fits (own other : Subscript) :=
 match own, other with
 | num sign val _, num otherSign otherVal _ => sign == otherSign && other.isSimple && val.sameAs otherVal
 | str val, str otherVal => val == otherVal
 | _, _ => false

end Subscript
namespace Node

def plainSubscript? (items : Nodes) (trailComma : Bool) : Node? :=
 if let [item] := items then if let .arg .simple none val := item.kind then if trailComma then none else val else none
 else none

variable (node : Node)
def argVal := if let .arg _ _ val := node.kind then val else node
def num? : Option NumVal := if let .number val _ := node.kind then val else none

def singleStr? : Text? :=
 if let .strList [only] _ _ := node.kind then if let .string _ val := only.kind then val else none else none

def number? (sign : String) : Option Subscript :=
 if let .number val isImag := node.kind then some (.num sign val isImag) else none

def subscript? : Option Subscript :=
 match node.kind with
 | .unary _ .subtract expr _ => expr.number? "-"
 | .strList .. => node.singleStr?.map .str
 | _ => node.number? ""

def isRefIn : Nat -> Node -> Bool
 | 0, _ => false
 | fuel + 1, node =>
  match node.kind with
  | .name .. | .walrus .. => true
  | .memAccess lhs _ => isRefIn fuel lhs
  | .idx lhs items trailComma =>
   ((plainSubscript? items trailComma).bind subscript?).any Subscript.isSimple && isRefIn fuel lhs
  | _ => false

def isRef := isRefIn maxHeight node
def firstSubscript? (items : Nodes) := (items.head?.map argVal).bind subscript?
def addKey (keys : Strings) (ending : String) := (keys.headD "" ++ ending) :: keys

def keysIn : Nat -> Node -> Strings
 | 0, _ => []
 | fuel + 1, node =>
  match node.kind with
  | .name val _ => [val]
  | .walrus name _ _ _ => [name.nameVal]
  | .memAccess lhs mem => addKey (keysIn fuel lhs) ("." ++ mem.nameVal)
  | .idx lhs items _ => addKey (keysIn fuel lhs) ((firstSubscript? items).elim "" Subscript.key)
  | _ => []

def refKey := (keysIn maxHeight node).headD ""
def refKeys := (keysIn maxHeight node).reverse

def boundName? : Node? :=
 match node.kind with
 | .name .. => node
 | .walrus name _ _ _ => name
 | _ => none

def matchesIn : Nat -> Node -> Node -> Bool
 | 0, _, _ => false
 | fuel + 1, ref, expr =>
  match ref.kind, expr.kind with
  | .name val _, _ => (expr.boundName?.map nameVal) == val
  | .memAccess lhs mem, .memAccess exprLhs exprMem => matchesIn fuel lhs exprLhs && mem.nameVal == exprMem.nameVal
  | .idx lhs items _, .idx exprLhs exprItems trailComma =>
   matchesIn fuel lhs exprLhs &&
    (firstSubscript? items).any fun own => ((plainSubscript? exprItems trailComma).bind subscript?).any own.fits
  | _, _ => false

variable (ref expr deco : Node) (parts : FnParts Node) (suite : Node)
def matchesRef := matchesIn maxHeight ref expr

def partlyMatchesIn : Nat -> Node -> Node -> Bool
 | 0, _, _ => false
 | fuel + 1, ref, expr =>
  match ref.kind with
  | .memAccess lhs _ | .idx lhs _ _ => lhs.matchesRef expr || partlyMatchesIn fuel lhs expr
  | _ => false

def partlyMatchesRef := partlyMatchesIn maxHeight ref expr

/-! Documentation strings. -/

def strings? : Option Nodes := if let .strList strings _ _ := node.kind then strings else none
def strVal := if let .string _ val := node.kind then val else #[]

def strFlags :=
 let flags (token : Token) := match token.kind with
  | .string flags .. | .fStrStart flags _ => flags
  | _ => {}
 match node.kind with
 | .string token _ | .formatStr token .. => flags token
 | _ => {}

def wholeNum? : Int? :=
 match node.kind with
 | .number (.plain val) false | .number (.big val) false => some val
 | _ => none

def isFormatStr := node.kind matches .formatStr ..

def docNode? (stmt : Node) : Node? :=
 if let .stmtList _ (first :: _) := stmt.kind then
  first.strings?.bind fun strings => if strings.isEmpty || strings.any isFormatStr then none else first
 else none

def stringsVal : Text := (node.strings?.getD []).foldl (fun text part => text ++ part.strVal) #[]

def docStr? (stmts : Nodes) : Text? := do
 let first <- stmts.head?
 pure (<- docNode? first).stringsVal

/-! Bodies. -/

def isStubSuite :=
 let parts := suite.stmts.map fun stmt => if let .stmtList _ parts := stmt.kind then some parts else none
 parts.all (·.any (·.all (·.kind matches .ellipsis | .strList ..))) &&
  parts.any (·.any (·.any (·.kind matches .ellipsis)))

def isEmptyFnSuite :=
 suite.stmts.all fun stmt => match stmt.kind with
  | .error .. => true
  | .stmtList _ parts => parts.all fun part => (part.kind matches .ellipsis | .strList .. | .passStmt)
  | _ => false

def hasAwait := node.any (·.kind matches .await ..)

/-! Parameters. -/

def hintOfPar? (idx : Nat) := do
 let par <- (<- parts.pars[idx]?).parParts?
 if let some hint := par.hint <|> par.hintCmt then pure hint
 else
  if let .fnTyCmt false pars _ := (<- parts.hintCmt).kind then
   let skipped := if pars.length < parts.pars.length then 1 else 0
   if idx < skipped then none else pars[idx - skipped]?
  else none

def isUnannotated :=
 parts.retHint.isNone && parts.pars.all fun par =>
  par.parParts?.all fun parts => parts.hint.isNone && parts.hintCmt.isNone

def isSimpleDfltIn : Nat -> Node -> Bool
 | 0, _ => false
 | fuel + 1, node =>
  match node.kind with
  | .number .. | .const _ | .memAccess .. => true
  | .string token _ => if let .string flags _ _ := token.kind then !flags.hasFields else true
  | .strList strings _ _ => strings.all (isSimpleDfltIn fuel)
  | .unary _ _ expr _ => isSimpleDfltIn fuel expr
  | .binary lhs _ _ rhs _ => isSimpleDfltIn fuel lhs && isSimpleDfltIn fuel rhs
  | _ => false

def isSimpleDflt := isSimpleDfltIn maxHeight node

def runtimeArgs (args : Nodes) :=
 let isKw arg := if let .arg cat name _ := arg.kind then name.isSome || cat == .unpDict else false
 args.filter (!isKw ·) ++ args.filter isKw

/-! Dotted names. -/

def dottedNamesIn : Nat -> Node -> Option Nodes
 | 0, _ => none
 | fuel + 1, node =>
  match node.kind with
  | .name .. => [node]
  | .memAccess lhs mem => (dottedNamesIn fuel lhs).map (· ++ [mem])
  | _ => none

def dottedNames? := dottedNamesIn maxHeight node

def decoNameIn : Nat -> Node -> String?
 | 0, _ => none
 | fuel + 1, node =>
  match node.kind with
  | .name .. | .memAccess .. => node.dottedNames?.map fun names => ".".intercalate (names.map nameVal)
  | .call lhs _ _ => decoNameIn fuel lhs
  | _ => none

def decoName? := if let .deco expr := deco.kind then decoNameIn maxHeight expr else none
def isDecoNamed (name : String) := if let .deco expr := deco.kind then expr.nameVal? == name else false
def strValSpan? := if let .string token _ := node.kind then token.valueSpan? else none

end Node
namespace Anc
variable (anc : Anc)
def nextStmt? (stmt : Node) := do
 let block <- anc.parent? stmt
 let idx <- block.stmts.findIdx? (· == stmt)
 block.stmts[idx + 1]?

def mayBeDocumented (stmtList : Node) :=
 (anc.parent? stmtList).any fun block =>
  block.isMod ||
  (block.isSuite && (anc.parent? block).any (·.isCls)) ||
  (anc.enclFn? stmtList).any fun fn => fn.fnParts?.any (·.name.nameVal == "__init__") && (anc.enclCls? fn true).isSome

variable (node : Node)
def declaringNode? :=
 let way := anc.ancestors node
 let isEnd hit := hit.kind matches .assignment .. | .tyAlias .. | .suite ..
 if let some hit := way.find? isEnd then
  if hit.isSuite then annotatedBefore (way.takeWhile (!isEnd ·)) else hit
 else annotatedBefore way
where annotatedBefore (way : Nodes) : Node? := way.find? (·.kind matches .annot ..)

def varDocNode? : Node? := do
 let declaring <- anc.declaringNode? node
 let stmtList <- anc.parent? declaring
 if !(stmtList.kind matches .stmtList ..) then none
 else
  let block <- anc.parent? stmtList
  if !(block.isMod || block.isSuite) then none
  else
   let next <- anc.nextStmt? stmtList
   let doc <- next.docNode?
   if anc.mayBeDocumented stmtList then doc else none

def setsNamedTupDflts (call : Node) :=
 (do
  let assignment <- anc.parent? call
  let name <- if let .assignment lhs _ _ _ := assignment.kind then lhs.nameVal? else none
  let stmtList <- anc.parent? assignment
  guard ((stmtList.kind matches .stmtList ..) && stmtList.stmts.head? == assignment)
  let block <- anc.parent? stmtList
  guard (block.isMod || block.isSuite)
  let idx <- block.stmts.findIdx? (· == stmtList)
  let rest := (block.stmts.drop (idx + 1)).dropWhile fun (stmt : Node) =>
   if let .stmtList _ (first :: _) := stmt.kind then (first.kind matches .strList ..) else false
  if let .stmtList _ (first :: _) := (<- rest.head?).kind then guard (assignsDflts name first) else none).isSome
where
 assignsDflts (name : String) (stmt : Node) : Bool :=
  if let .assignment lhs _ _ _ := stmt.kind then if let .memAccess tgt mem := lhs.kind then
    mem.nameVal == "__defaults__" && if let .memAccess owner meth := tgt.kind then
      meth.nameVal == "__new__" && owner.nameVal? == name
     else false
   else false
  else false

def isFutureImportPlace :=
 (anc.modOf? node).any fun modNode => go node false (simpleStmts modNode.stmts)
where
 simpleStmts (stmts : Nodes) : Nodes := (stmts.takeWhile (·.kind matches .stmtList ..)).flatMap Node.stmts
 isFuture (parts : ImportFromParts Node) : Bool :=
  if let .modName 0 [name] _ := parts.modName.kind then name.nameVal == "__future__" else false
 go (node : Node) : Bool -> Nodes -> Bool
  | _, [] => false
  | sawDoc, stmt :: rest =>
   if stmt == node then true
   else match stmt.kind with
    | .strList .. => if sawDoc then false else go node true rest
    | .importFrom parts => if isFuture parts then go node sawDoc rest else false
    | _ => false

end Anc
end TypeChecker
