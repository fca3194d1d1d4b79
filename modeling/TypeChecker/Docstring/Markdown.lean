import TypeChecker.Text.Range

/-! Documentation texts in Markdown. The converter reads line by line: which lines are rules, headings, list items,
fields or directives, and how the text within a line is written. -/

namespace TypeChecker
open Text
namespace Text
variable (text : Text)
def joinWith (sep : Text) (pieces : List Text) : Text := (sep.toList.intercalate (pieces.map (·.toList))).toArray

def indent := text.skipWhile isBlank 0
def isBlankOnly := text.all isBlank

def endsWithText (text ending : Text) := text.slice (text.size - ending.size) text.size == ending

def replaceUnit (unit : UInt16) (repl : Text) : Text :=
 text.flatMap fun other => if other == unit then repl else #[other]

def find? (text pat : Text) :=
 (List.range (text.size + 1)).find? fun pos => text.slice pos (pos + pat.size) == pat

end Text
namespace Docstring

def leastIndent (lines : List Text) := ((lines.filter (!·.isBlankOnly)).map indent).min?.getD 0

def dropEmptyEnds (lines : List Text) : List Text :=
 ((lines.dropWhile Array.isEmpty).reverse.dropWhile Array.isEmpty).reverse

variable (document : Text)
def lines : List Text :=
 let flat := replaceUnit (document.filter (· != 0x0D)) 0x09 (ofString "        ")
 match split flat 0x0A with
 | [] => []
 | first :: rest =>
  let removed := leastIndent (if rest.isEmpty then [first] else rest)
  dropEmptyEnds (first.trim :: rest.map fun line => (line.slice removed line.size).trimEnd)

def squeeze (blankBefore : Bool) : List Text -> List Text
 | [] => []
 | line :: rest => if line.isBlankOnly && blankBefore then squeeze true rest else line :: squeeze line.isBlankOnly rest

def plainText := (joinWith #[0x0A] (squeeze true (lines document))).trimEnd

def parIn? (name line : Text) : Text? :=
 let line := line.trim
 let tagged tag := (line.find? (ofString tag ++ name)).map fun pos => line.slice (pos + 7) line.size
 let named ending := (line.find? (name ++ ofString ending)).map (line.slice · line.size)
 (tagged "@param ").or ((tagged ":param ").or ((named ": ").or (named " (")))

def par? (document name : Text) : Text? :=
 if document.isEmpty || name.isEmpty then none else (lines document).findSome? (parIn? name)

variable (unit : UInt16)
def isLineEnd := [0x0A, 0x0D, 0x2028, 0x2029].contains unit

variable (text : Text)
def hasLineEnd := text.any isLineEnd

variable (line : Text)
def runEnd (unit : UInt16) (pos : Nat) := line.skipWhile (· == unit) pos

/-! Rules and headings. -/

def isRuleOf :=
 let start := line.indent
 runEnd line unit start == line.size && start + 3 <= line.size

def isDoubleRuleOf :=
 let start := line.indent
 let middle := runEnd line unit start
 let second := line.skipWhile isBlank middle
 start + 3 <= middle && middle < second && runEnd line unit second == line.size && second + 3 <= line.size

def isTableRule := isDoubleRuleOf 0x3D line
def isTableHeaderRule := isDoubleRuleOf 0x2D line

def isBrokenRule (first next : UInt16) (line : Text) :=
 let start := line.indent
 let stop := runEnd line first start
 start < stop && stop < line.size && go line.size stop
where
 go : Nat -> Nat -> Bool
  | 0, _ => false
  | fuel + 1, pos =>
   if pos == line.size then true
   else
    let run := line.skipWhile isBlank pos
    let stop := runEnd line next run
    pos < run && run < stop && go fuel stop

def ruleFill? : Option UInt16 :=
 ([(0x3D, 0x3D), (0x2D, 0x2D), (0x7E, 0x2D), (0x2B, 0x2B)].find? fun (first, next) => isBrokenRule first next line).map (·.1)

def isHeadingUnit := [0x23, 0x60, 0x7E, 0x3D, 0x2D].contains unit
def isHeading : Bool := line.indent + 3 <= line.skipWhile isHeadingUnit line.indent

/-! Blocks. -/

def fence? : Text? :=
 let start := line.indent
 let fenceOf unit := if runEnd line unit start == start + 3 then some #[unit, unit, unit] else none
 (fenceOf 0x60).or (fenceOf 0x7E)

def fenceWord : Text :=
 let start := line.indent + 3
 line.slice start (line.skipWhile isWordUnit start)

def isExample := (line.find? (.ofString ">>> ")).isSome
def isDirective := line.hasAt ".. " line.indent

def directive? : Option (Text × Text) :=
 let start := line.indent
 let first := line.skipWhile isBlank (start + 2)
 if line.hasAt ".." start && start + 2 < first then
  (List.range' first (line.size - first)).reverse.findSome? fun pos =>
   let about := line.slice (line.skipWhile isBlank (pos + 2)) line.size
   let kind := line.slice first pos
   if line.hasAt "::" pos && !hasLineEnd kind && !hasLineEnd about then some (kind, about) else none
 else none

def fieldNames := words ":param :arg :type :return :rtype :raise :except :var :ivar :cvar :copyright :license"

def isField := (!line.endsWithText #[0x3A] && line.contains 0x3A) || fieldNames.any (line.hasAt · line.indent)

def isItemOf :=
 line.unit line.indent == unit && line.indent + 1 < line.size && isBlank (line.unit (line.indent + 1))

def isNumberedItem :=
 let stop := line.skipWhile isDigitUnit line.indent
 line.indent < stop && line.unit stop == 0x2E && stop + 1 < line.size && isBlank (line.unit (stop + 1))

/-! Text within a line. -/

def blanks (count : Nat) : Text := .replicate count 0x20

def hardIndent : Text :=
 let hit := line.skipWhile (fun unit => unit == 0x20 || unit == 0x09) 0
 let count := min hit (line.size - 1)
 let rest := line.slice count line.size
 if count == 0 || hasLineEnd rest then line
 else (Array.replicate count (ofString "&nbsp;")).flatten ++ rest

def escapeAngles := (text.replaceUnit 0x3C (.ofString "&lt;")).replaceUnit 0x3E (.ofString "&gt;")
def isMarkupUnit := [0x5F, 0x2A, 0x7E, 0x5B, 0x5D].contains unit

def escapeMarkup :=
 (text.foldl (fun (res, before) unit =>
  (if isMarkupUnit unit && before != 0x5C then (res.push 0x5C).push unit else res.push unit,
   unit)) ((#[], 0) : Text × UInt16)).1

def isRoleUnit := isWordUnit unit || [0x2D, 0x2B, 0x3A, 0x2E].contains unit

variable (pos : Nat)
def roleBefore? :=
 let stop := line.skipWhile isRoleUnit (pos + 1)
 if line.unit pos == 0x3A && line.unit stop == 0x60 && line.unit (stop - 1) == 0x3A &&
   pos + 3 <= stop then some (stop + 1)
 else none

def lastOf? (start stop : Nat) := (List.range' start (stop - start)).reverse.find? (line.unit · == unit)

def roleAfter? :=
 if line.unit pos == 0x60 && line.unit (pos + 1) == 0x3A then
  (lastOf? 0x3A line (pos + 3) (line.skipWhile isRoleUnit (pos + 2))).map (· + 1)
 else none

def replaceRoles (role? : Text -> Nat -> Nat?) (line : Text) := go line.size 0 #[]
where
 go : Nat -> Nat -> Text -> Text
  | 0, _, res => res
  | fuel + 1, pos, res =>
   if line.size <= pos then res
   else if let some stop := role? line pos then go fuel stop (res.push 0x60)
    else go fuel (pos + 1) (res.push (line.unit pos))

def singleTicks : List UInt16 -> List UInt16
 | 0x60 :: 0x60 :: rest => 0x60 :: singleTicks rest
 | unit :: rest => unit :: singleTicks rest
 | [] => []

def plainLine : Text :=
 let colons := .ofString "::"
 let cut (line : Text) := line.slice 0 (line.size - 2)
 if line.slice line.indent line.size == colons then #[]
 else
  let line := if line.endsWithText colons && isBlank (line.unit (line.size - 3)) then (cut line).trimEnd else line
  let line := if line.endsWithText colons && !(cut line).isBlankOnly then (cut line).trimEnd.push 0x3A else line
  (singleTicks (replaceRoles roleAfter? (replaceRoles roleBefore? line)).toList).toArray

/-! Links. -/

def linkAt? :=
 if text.unit pos == 0x5B then
  (lastOf? 0x29 text pos (text.skipWhile (!isLineEnd ·) pos)).bind fun close =>
   let isMiddle place := text.unit place == 0x5D && text.unit (place + 1) == 0x28
   if (List.range' (pos + 1) (close - (pos + 2))).any isMiddle then some (close + 1) else none
 else none

def findLink? := (List.range' pos (text.size - pos)).findSome? (linkAt? text)

def splitLinks := go text.size 0 0
where
 go : Nat -> Nat -> Nat -> List Text
  | 0, first, _ => [text.slice first text.size]
  | fuel + 1, first, pos =>
   if text.size <= pos then [text.slice first text.size]
   else if let some stop := linkAt? text pos then
     text.slice first pos :: text.slice pos stop :: go fuel stop stop
    else go fuel first (pos + 1)

inductive Block where
 | text | empty | fenced | sample | lit | litLine | directive | directiveBody | list | table | gone
 deriving DecidableEq

structure Table where
 rule : Text
 inHeader : Bool

structure Searches where
 (field link : Nat := 0)

structure Page where
 output : Text := #[]
 skipsEmpty := true
 inCode := false
 searches : Searches

namespace Page
variable (page : Page)
def append (text : Text) := {page with output := page.output ++ text, skipsEmpty := false}

def appendEmpty :=
 if page.skipsEmpty then page else {page with output := page.output.push 0x0A, skipsEmpty := true}

variable (line : Text)
def appendLine :=
 if line.isBlankOnly then page.appendEmpty
 else {page with output := (page.output ++ line).push 0x0A, skipsEmpty := false}

def closeWith := ({page with output := page.output.trimEnd, skipsEmpty := false}.appendEmpty).appendLine line
def ticks : Text := ofString "```"
def lineBreak := ofString "  \n"
def endsParagraph := page.output.endsWithText lineBreak || page.output.endsWithText #[0x0A, 0x0A]
def breakLine := {page with output := page.output.slice 0 (page.output.size - 1) ++ lineBreak}

def appendPiece (piece : Text) :=
 if let some stop := findLink? piece page.searches.link then {page with searches.link := stop}.append piece
 else {page with searches.link := 0}.append (escapeMarkup piece)

def appendPlain (part : Text) := (splitLinks part).foldl appendPiece page

def appendFirst (whole : Bool) (part : Text) :=
 let part := if let some fill := if whole then ruleFill? part else none then
   part.map fun unit => if isBlank unit then fill else unit
  else part
 if whole && isRuleOf 0x7E part then page.append (part.map fun unit => if unit == 0x7E then 0x2D else unit)
 else if whole && isRuleOf 0x2B part then page.append (part.map fun unit => if unit == 0x2B then 0x2D else unit)
 else
  let start := part.indent
  let rest := part.slice (start + 2) part.size
  if 0 < start && part.hasAt "* " start && !hasLineEnd rest then
   (page.append (part.slice 0 (start + 2))).appendPlain rest
  else page.appendPlain part

def appendParts (page : Page) (whole : Bool) : Bool -> List Text -> Page
 | _, [] => page
 | isFirst, part :: rest =>
  let page := if isFirst then page else {page with inCode := !page.inCode}.append #[0x60]
  let page :=
   if page.inCode then page.append part
   else if isFirst then page.appendFirst whole (escapeAngles part)
   else page.appendPlain (escapeAngles part)
  page.appendParts whole false rest

def appendText :=
 let parts := (plainLine line).split 0x60
 let page := page.appendParts (parts.length == 1) true parts
 {page with output := page.output.push 0x0A}

end Page

structure Conv where
 lines : Array Text
 line := 0
 block : Block := .text
 noted : List Block := []
 page : Page
 keepsDirective := false
 indent := 0
 table : Option Table := none
 fence : Text? := none

namespace Conv
open Page (ticks)
variable (conv : Conv)
def cur? : Text? := conv.lines[conv.line]?
def cur : Text := conv.cur?.getD #[]
def prev? : Text? := if conv.line = 0 then none else conv.lines[conv.line - 1]?
def isGap (line : Text?) := line.all isBlankOnly
def atGap := isGap conv.cur?
def next := {conv with line := conv.line + 1}
def isOutside : Bool := conv.cur.indent < conv.indent
def inner : Text := conv.cur.slice conv.indent conv.cur.size
def nextIndent := (((conv.lines.toList.drop (conv.line + 1)).find? (!·.isBlankOnly)).getD #[]).indent

variable (change : Page -> Page)
def write := {conv with page := change conv.page}
def take := (conv.write change).next

/-! Blocks within blocks. -/

def enter (block : Block) : Conv :=
 {conv with page.inCode := conv.page.inCode && conv.block != .text, noted := conv.noted ++ [conv.block], block}

/-- Goes back to the block that was noted first. -/
def leave : Conv :=
 let block := conv.noted.headD .gone
 {conv with block, noted := conv.noted.tail, page.inCode := conv.page.inCode && block != .text}

def enterCode (block : Block) :=
 let conv := (conv.write (·.appendLine ticks)).enter block
 {conv with indent := conv.cur.indent}

def leaveCode := (conv.write fun page => (page.closeWith ticks).appendEmpty).leave

/-! Reading one line in a block. -/

def followsColons :=
 conv.prev?.any isBlankOnly &&
  ((conv.lines.toList.take (conv.line - 1)).reverse.find? (!·.isBlankOnly)).any (endsWithText · (ofString "::"))

def item? : Option (Text × Bool) :=
 let line := conv.cur
 let indent := line.indent
 let halved := if 4 <= indent then blanks (indent / 2) ++ line.trimStart else line
 if conv.page.inCode then none
 else if isItemOf 0x2D line then (halved, true)
 else if isItemOf 0x2A line then (if indent == 0 then blanks 1 ++ line else halved, true)
 else if isNumberedItem line then (line, false)
 else none

def field? : Option (Page -> Page) :=
 let line := conv.cur
 if conv.page.inCode then none
 else if line.unit 0 == 0x40 && 0 < line.size then some (·.appendEmpty.appendText line)
 else if isField line then some fun page =>
  (if page.endsParagraph || conv.prev?.any isHeading then page else page.breakLine).appendText (hardIndent line)
 else none

def appendPlain (page : Page) :=
 let line := conv.cur
 let before := (conv.prev?.getD #[]).indent
 let afterText := !isGap conv.prev?
 let page :=
  if before < line.indent && afterText && !page.endsParagraph && !conv.prev?.any isHeading then page.breakLine
  else page
 let page := if line.indent < before && afterText && !page.endsParagraph then page.breakLine else page
 page.appendText (if before == 0 || page.endsParagraph then hardIndent line else line.trimStart)

def readText :=
 let line := conv.cur
 if conv.atGap then {conv with block := .empty}
 else if let some fence := fence? line then
   ({conv with indent := line.indent, fence}.take (·.appendLine (fence ++ fenceWord line))).enter .fenced
  else if conv.followsColons then
   if line.indent == 0 then (conv.write (·.appendLine ticks)).enter .litLine else conv.enterCode .lit
  else if isExample line then
   let conv := conv.enterCode .sample
   conv.take (·.appendLine conv.inner)
  else if isDirective line then {conv.enter .directive with indent := conv.nextIndent, keepsDirective := false}
  else if let some (line, beginsList) := conv.item? then
   let conv := conv.take (·.appendText line)
   if beginsList then conv.enter .list else conv
  else if let some change := conv.field? then conv.take change
   else if !conv.page.inCode && isTableRule line then {conv with table := some ⟨line.trimStart, true⟩}.next.enter .table
   else conv.take conv.appendPlain

def readEmpty := if conv.atGap then conv.take (·.appendEmpty) else {conv with block := .text}

def readFenced :=
 let line := conv.cur
 match fence? line, line.indent == conv.indent with
 | some fence, true => ({conv with fence}.take fun page => (page.appendLine fence).appendEmpty).leave
 | _, _ => conv.take (·.appendLine line)

def readSample :=
 if conv.isOutside || conv.atGap then conv.leaveCode else conv.take (·.appendLine conv.inner)

def readLit :=
 if conv.atGap then conv.take (·.appendEmpty)
 else if conv.isOutside && isGap conv.prev? then conv.leaveCode
 else conv.take (·.appendLine conv.cur)

def readLitLine :=
 (conv.take fun page => ((page.appendLine conv.cur).appendLine ticks).appendEmpty).leave

def readDirective :=
 let (kind, about) := (directive? conv.cur).getD (#[], #[])
 if kind == ofString "code-block" then ({conv with keepsDirective := true}.enterCode .lit).next
 else
  let isCls := kind == ofString "class"
  let conv := conv.write fun page => if isCls then
    (((page.appendEmpty.appendLine ticks).appendLine about).appendLine ticks).appendEmpty
   else page
  let conv := {conv with keepsDirective := conv.keepsDirective || isCls}
  (if conv.indent == 0 then conv.leave else {conv with block := .directiveBody}).next

def readDirectiveBody :=
 if !conv.atGap && conv.isOutside then conv.leave
 else if conv.keepsDirective then conv.take (·.appendText conv.cur.trimStart)
 else conv.next

def readList :=
 if conv.atGap || conv.isOutside then conv.leave
 else conv.take (·.appendText (conv.item?.elim conv.cur.trimStart (·.1)))

/-! Tables. -/

def cells (line : Text) : Nat -> List Text -> List Text
 | _, [] => []
 | start, column :: rest => line.slice start (start + column.size + 1) :: cells line (start + column.size + 1) rest

def row (cells : List Text) : Text := cells.foldl (fun text cell => (text ++ cell).push 0x7C) #[0x7C]
def isHeaderEnd (line : Text?) := isGap line || line.any fun line => isTableHeaderRule line || isTableRule line

def headerCells (columns : List Text) : List Text -> Nat -> List Text × Nat
 | [], count => (columns.map fun _ => #[], count)
 | line :: rest, count =>
  let first := (cells line 0 columns).map (·.push 0x20)
  if isHeaderEnd rest.head? then (first, count + 1)
  else
   let (others, count) := headerCells columns rest (count + 1)
   (.zipWith (fun cell other => cell ++ ofString "<br>" ++ other) first others, count)

def barFirstBlank (text : Text) : Text :=
 match text.toList.span (· != 0x20) with
 | (before, _ :: after) => (before ++ 0x7C :: after).toArray
 | (_, []) => text

def readTable :=
 match conv.table, conv.atGap with
 | some table, false =>
  let line := conv.cur
  if isTableRule line then {(conv.take (·.appendLine (ofString "\n<br/>\n"))).leave with table := none}
  else
   let columns := table.rule.split 0x20
   if table.inHeader then
    let (cells, stop) := headerCells columns (conv.lines.toList.drop conv.line) conv.line
    let conv := {conv with line := stop, table := some {table with inHeader := false}}
    let rule := conv.cur.trimStart.map fun unit => if unit == 0x3D then 0x2D else unit
    conv.take fun page => (page.appendLine (row cells)).appendLine ((#[0x7C] ++ barFirstBlank rule).push 0x7C)
   else conv.take (·.appendLine (row (cells line 0 columns)))
 | _, _ => {conv.leave with table := none}

/-! The whole text. -/

def step :=
 match conv.block with
 | .text => conv.readText
 | .empty => conv.readEmpty
 | .fenced => conv.readFenced
 | .sample => conv.readSample
 | .lit => conv.readLit
 | .litLine => conv.readLitLine
 | .directive => conv.readDirective
 | .directiveBody => conv.readDirectiveBody
 | .list => conv.readList
 | .table => conv.readTable
 | .gone => conv

def run : Nat -> Conv -> Conv
 | 0, conv => conv
 | fuel + 1, conv =>
  if conv.cur?.isNone then conv
  else
   let after := conv.step
   if after.block == conv.block && after.line == conv.line then after else run fuel after

def convert :=
 let conv := run (4 * conv.lines.size + 4) conv
 if conv.block matches .fenced | .sample | .lit then conv.page.closeWith (conv.fence.getD ticks)
 else if conv.page.inCode then {conv.page with output := conv.page.output.trimEnd, skipsEmpty := false}.appendLine #[0x60]
 else conv.page

end Conv

/-! Fields that are marked by a dot and an at sign. -/

variable (document : Text)
def dottedField? (pos : Nat) :=
 let sign := document.skipWhile isBlank (pos + 1)
 if (pos == 0 || isLineEnd (document.unit (pos - 1))) && document.unit pos == 0x2E &&
   pos + 1 < sign && document.unit sign == 0x40 && isWordUnit (document.unit (sign + 1)) then
  some (sign + 2)
 else none

def findDottedField? (pos : Nat) := (List.range' pos (document.size - pos)).findSome? (dottedField? document)

def dropFieldDot (line : Text) :=
 if line.unit 0 == 0x2E && 0 < line.size then
  if 4 <= line.size && (line.slice 1 4).isBlankOnly then line.slice 4 line.size else line.slice 1 line.size
 else line

def markdownAfter (searches : Searches) (document : Text) : Text × Searches :=
 let hit := findDottedField? document searches.field
 let lines := lines document
 let lines := if hit.isSome then lines.map dropFieldDot else lines
 let page := Conv.convert {lines := lines.toArray, page := {searches := {searches with field := hit.getD 0}}}
 (page.output.trim, page.searches)

def markdown := (markdownAfter {} document).1

end Docstring
end TypeChecker
