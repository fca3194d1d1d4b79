import TypeChecker.Token.Basic

/-! Reading a source text into tokens. -/

namespace TypeChecker

/-- The width of a line's leading blanks, with tabs of one column and of eight. -/
structure IndentInfo where
 (tab1 tab8 : Nat)
 (hasSpace hasTab : Bool)

/-- The width with one more blank; a form feed starts afresh. -/
def IndentInfo.add (info : IndentInfo) (unit : UInt16) :=
 if unit == 0x20 then
  {info with tab1 := info.tab1 + 1, tab8 := info.tab8 + 1, hasSpace := true}
 else if unit == 0x09 then
  {info with
  tab1 := info.tab1 + 1, hasTab := true
  tab8 := info.tab8 + (8 - info.tab8 % 8)}
 else ⟨0, 0, false, false⟩

def indentOf (blanks : Text) : IndentInfo := blanks.foldl .add ⟨0, 0, false, false⟩

def IndentInfo.mixes (left right : IndentInfo) := (left.hasSpace && right.hasTab) || (left.hasTab && right.hasSpace)

/-- A replacement field of an f-string and the bracket depth inside its brace. -/
structure FieldCtx where
 inFormat : Bool
 depth : Nat

structure FStrCtx where
 flags : StrFlags
 outerFields : List FieldCtx := []
 field : Option FieldCtx := none

/-- Why a text has no token sequence. -/
inductive ScanError where
 | badStart (start : Int) (size : Nat)
 | badLength (start length : Int) (size : Nat)
 | badInteger (digits : String)
 deriving DecidableEq

def ScanError.msg : ScanError -> String
 | .badStart start size => s!"Invalid range start (start={start}, text.length={size})"
 | .badLength start length size => s!"Invalid range length (start={start}, length={length}, text.length={size})"
 | .badInteger digits => s!"Cannot convert {digits} to a BigInt"

def ScanError.name : ScanError -> String
 | .badInteger _ => "SyntaxError"
 | _ => "Error"

structure Scan where
 pos : Nat
 cells := false
 (depth lineStart : Nat := 0)
 tokens : Array Token := #[]
 lines : LineTable := #[]
 indents : List IndentInfo := []
 cmts : Array Cmt := #[]
 fStr : Option FStrCtx := none
 outers : List FStrCtx := []
 typeIgnoreAll : Option Directive := none
 (typeIgnoreLines ruleIgnoreLines : Array (Nat × Directive) := #[])
 (crCount crLfCount lfCount indentCount indentTabCount indentSpacesTotal singleQuoteCount : Nat := 0)
 (doubleQuoteCount : Nat := 0)
 failure : Option ScanError := none

namespace Scan
variable (unit : UInt16)
/-- Layout inside a line: space, tab and form feed. -/
def isSpacing := unit == 0x20 || unit == 0x09 || unit == 0x0C
def isBreak := unit == 0x0D || unit == 0x0A

/-- Adds a token that takes the waiting comments. -/
def push (scan : Scan) (start length : Nat) (kind : TokenKind) :=
 {scan with
 tokens := scan.tokens.push ⟨⟨start, length⟩, kind, scan.cmts⟩
 cmts := #[]}

variable (scan : Scan)
/-- Adds a token that leaves the waiting comments for a later one. -/
def pushBare (start length : Nat) (kind : TokenKind) :=
 {scan with tokens := scan.tokens.push ⟨⟨start, length⟩, kind, #[]⟩}

/-- Adds a token at the read position and moves behind it. -/
def take (length : Nat) (kind : TokenKind) :=
 let start := scan.pos
 {scan.push start length kind with pos := start + length}

def endLine :=
 if scan.lineStart < scan.pos then
  {scan with
  lines := scan.lines.push ⟨scan.lineStart, scan.pos - scan.lineStart⟩
  lineStart := scan.pos}
 else {scan with lineStart := scan.pos}

def endsWithNewLine :=
 match scan.tokens.back? with
 | some token => token.isNewLine
 | none => false

def atLineStart := scan.tokens.back?.all (·.isLayout)

/-! Indentation. -/

def openIndent (start : Nat) (info : IndentInfo) (prev : Nat) (ambiguous : Bool) :=
 {scan with
 indentCount := scan.indentCount + 1
 indentTabCount := if info.hasTab then scan.indentTabCount + 1 else scan.indentTabCount
 indentSpacesTotal := scan.indentSpacesTotal + (info.tab8 - prev)
 indents := info :: scan.indents}.push start info.tab1 (.indent info.tab8 ambiguous)

/-- Closes the levels deeper than `amount`, one dedent token for each. -/
def closeIndents (amount : Nat) (ambiguous : Bool) := go scan scan.indents ambiguous
where
 go (scan : Scan) : List IndentInfo -> Bool -> Scan
  | [], _ => {scan with indents := []}
  | info :: outer, ambiguous =>
   if amount < info.tab8 then
    let left := (outer.head?.map (·.tab8)).getD 0
    let isLast := left <= amount
    let scan := scan.push scan.pos 0 (.dedent (if isLast then amount else left) (!isLast || left == amount) ambiguous)
    if isLast then {scan with indents := outer} else go scan outer false
   else {scan with indents := info :: outer}

/-- Compares the indent of a line with the open levels and emits the tokens that follow from it. -/
def setIndent (start : Nat) (info : IndentInfo) :=
 if 0 < scan.depth then scan
 else match scan.indents with
  | [] => if 0 < info.tab8 then scan.openIndent start info 0 false else scan
  | prev :: _ =>
   let mixes := prev.mixes info
   if prev.tab8 < info.tab8 then
    scan.openIndent start info prev.tab8 (mixes && info.tab1 <= prev.tab1)
   else if prev.tab8 = info.tab8 then
    if mixes then scan.push start info.tab1 (.indent info.tab8 true) else scan
   else scan.closeIndents info.tab8 mixes

variable (text : Text)
/-- Reads the indent of a new line. Lines that hold only blanks or a comment do not count. -/
def readIndent :=
 let start := scan.pos
 let pos := text.skipWhile isSpacing start
 let scan := {scan with pos := pos}
 let unit := text.unit pos
 if text.size <= pos || unit == unitOf '#' || isBreak unit then scan
 else scan.setIndent start (indentOf (text.slice start pos))

variable (pos : Nat) (inFStr : Bool) (start : Nat) (flags : StrFlags)
/-- The length of the line break at an offset: a carriage return takes the line feed behind it. -/
def breakLen := if text.unit pos == 0x0D && text.unit (pos + 1) == 0x0A then 2 else 1

def lineBreakKind : NewLineKind :=
 if text.unit pos == 0x0A then .lineFeed
 else if text.unit (pos + 1) == 0x0A then .carriageReturnLineFeed else .carriageReturn

variable (scan : Scan)
/-- Reads the line break at the read position and the indent behind it. -/
def newLine :=
 let length := breakLen text scan.pos
 let kind := lineBreakKind text scan.pos
 let count other := (kind == other).toNat
 let scan := if scan.depth = 0 && !scan.endsWithNewLine then scan.push scan.pos length (.newLine kind) else scan
 {scan with
 pos := scan.pos + length
 crCount := scan.crCount + count .carriageReturn
 crLfCount := scan.crLfCount + count .carriageReturnLineFeed
 lfCount := scan.lfCount + count .lineFeed}.endLine.readIndent text

/-! Strings. -/

/-- The state of a walk over the content of a string. -/
structure Content where
 pos : Nat
 flags : StrFlags
 named := false
 lines : LineTable
 lineStart : Nat

structure ContentEnd where
 content : Content
 stop : Nat

def Content.endLine (content : Content) :=
 if content.lineStart < content.pos then
  {content with
  lines := content.lines.push ⟨content.lineStart, content.pos - content.lineStart⟩
  lineStart := content.pos}
 else {content with lineStart := content.pos}

def isQuote := unit == 0x27 || unit == 0x22

/-- What comes next in the content of a string. -/
inductive ContentMove where
 /-- Goes on in the line, inside or outside a named character. -/
 | pass (length : Nat) (named : Bool)
 /-- Passes `skip` units and the line break behind them. -/
 | line (skip : Nat)
 | unclosed
 /-- A brace opens or closes a replacement field. -/
 | field (opens : Bool)
 | quote

/-- The move at a backslash. -/
def escapeMove (named : Bool) (pos : Nat) : ContentMove :=
 let next := text.unit (pos + 1)
 if !named && (next == unitOf 'N' && text.unit (pos + 2) == 0x7B) then .pass 1 true
 else if isBreak next then .line 1
 else if pos + 1 < text.size && (!flags.hasFields || next == 0x5C || isQuote next) then .pass 2 named
 else .pass 1 named

/-- `inField` says that an f-string's replacement field is open, `inFormatSpecifier` that the content is
a format specifier. -/
def contentMove (inField inFormat named : Bool) (pos : Nat) : ContentMove :=
 let quote := flags.quote
 let unit := text.unit pos
 let next := text.unit (pos + 1)
 if text.size <= pos then .unclosed
 else if unit == 0x5C then escapeMove text flags named pos
 else if isBreak unit then
  if flags.triplicate || (flags.hasFields && inField) then .line 0 else .unclosed
 else if unit == quote && (!flags.triplicate || (next == quote && text.unit (pos + 2) == quote)) then .quote
 else if !named && flags.hasFields && unit == 0x7B then
  if inFormat || next != 0x7B then .field true else .pass 2 named
 else if named && unit == 0x7D then .pass 1 false
 else if flags.hasFields && unit == 0x7D then
  if inFormat || next != 0x7D then .field false else .pass 2 named
 else .pass 1 named

/-- Walks over the content of a string up to its closing quote, to a brace of a replacement field, or to
where the string breaks off. -/
def scanContent (inField inFormat : Bool) (start : Content) := go (text.size + 1 - start.pos) start
where
 go : Nat -> Content -> ContentEnd
  | 0, content => ⟨content, content.pos⟩
  | fuel + 1, content =>
   let pos := content.pos
   match contentMove text start.flags inField inFormat content.named pos with
   | .pass length named =>
    go fuel {content with
     pos := pos + length, named := named
     flags.namedUnicodeEscape := content.flags.namedUnicodeEscape || named}
   | .line skip => go fuel {content with pos := pos + skip + breakLen text (pos + skip)}.endLine
   | .unclosed => ⟨{content with flags.unclosed := true}, pos⟩
   | .field true => ⟨{content with flags.replacementFieldStart := true}, pos⟩
   | .field false => ⟨{content with flags.replacementFieldEnd := true}, pos⟩
   | .quote => ⟨content, pos + start.flags.quoteLen⟩

/-- Whether a unit is one of the given small letters, or its capital. -/
def isLetterOf (letters : List Char) (unit : UInt16) :=
 letters.any fun letter => unit == unitOf letter || unit == unitOf letter - 0x20

def isPrefixPair (first second : UInt16) :=
 (isLetterOf ['r'] first && isLetterOf ['f', 't', 'b'] second) ||
  (isLetterOf ['f', 't', 'b'] first && isLetterOf ['r'] second)

def prefixLen? :=
 let first := text.unit pos
 let second := text.unit (pos + 1)
 if isQuote first then some 0
 else if isLetterOf ['f', 'r', 'b', 'u', 't'] first && isQuote second then some 1
 else if isPrefixPair first second && isQuote (text.unit (pos + 2)) then some 2
 else none

def quoteFlags (start prefixLen : Nat) : StrFlags :=
 let has letter := (text.slice start (start + prefixLen)).any (isLetterOf [letter])
 let quotePos := start + prefixLen
 let quote := text.unit quotePos
 {unicode := has 'u', bytes := has 'b', raw := has 'r', format := has 'f'
  tmpl := has 't', singleQuote := quote == 0x27, doubleQuote := quote == 0x22
  triplicate := text.unit (quotePos + 1) == quote && text.unit (quotePos + 2) == quote}

def sameQuote (left right : StrFlags) :=
 left.triplicate == right.triplicate && left.doubleQuote == right.doubleQuote &&
 left.singleQuote == right.singleQuote

def contentAt : Content := {pos, flags, lines := scan.lines, lineStart := scan.lineStart}

variable (fStr : FStrCtx)
/-- Closes the replacement fields of the innermost f-string, because its closing quote was met inside
one of them. -/
def abandonFields (field : FieldCtx) :=
 let outermost := (fStr.outerFields.getLast?).getD field
 {scan with
 depth := outermost.depth - 1
 fStr := some {fStr with field := none, outerFields := []}}

variable (prefixLen : Nat)
/-- The walk over the content of the string whose prefix starts at the read position. -/
def strContent : ContentEnd :=
 let flags := quoteFlags text scan.pos prefixLen
 scanContent text (scan.fStr.any (·.field.isSome)) false
  (scan.contentAt (scan.pos + prefixLen + flags.quoteLen) flags)

/-- The f-string, and its field, that a bare quote closes because a string from there on would not end. -/
def closedField? (unclosed : Bool) : Option (FStrCtx × FieldCtx) :=
 match scan.fStr with
 | some fStr =>
  match fStr.field with
  | some field => if unclosed && sameQuote fStr.flags flags then (fStr, field) else none
  | none => none
 | none => none

/-- Reads the string whose prefix starts at the read position. -/
def string :=
 let start := scan.pos
 let flags := quoteFlags text start prefixLen
 let contentStart := start + prefixLen + flags.quoteLen
 if flags.hasFields then
  {scan.take (contentStart - start) (.fStrStart flags prefixLen) with
  outers := match scan.fStr with
   | some outer => outer :: scan.outers
   | none => scan.outers
  fStr := some {flags}}
 else
  let ⟨content, stop⟩ := scan.strContent text prefixLen
  let closed := if prefixLen = 0 then scan.closedField? flags content.flags.unclosed else none
  let scan := {scan with
   lines := content.lines, lineStart := content.lineStart
   singleQuoteCount := scan.singleQuoteCount + (!flags.triplicate && flags.singleQuote).toNat
   doubleQuoteCount := scan.doubleQuoteCount + (!flags.triplicate && !flags.singleQuote).toNat}
  match closed with
  | some (fStr, field) => scan.abandonFields fStr field
  | none =>
   {scan with pos := stop}.push start (stop - start)
    (.string content.flags (text.slice contentStart content.pos) prefixLen)

def closeFStr := {scan with fStr := scan.outers.head?, outers := scan.outers.tail}

/-- Reads the literal part of the open f-string at the read position. -/
def fStrMiddle :=
 let start := scan.pos
 let ⟨content, stop⟩ := scanContent text fStr.field.isSome (fStr.field.any (·.inFormat))
  (scan.contentAt start fStr.flags)
 let flags := content.flags
 let scan := {scan with pos := stop, lines := content.lines, lineStart := content.lineStart}
 let scan :=
  if start < content.pos || flags.unclosed then
   scan.pushBare start (content.pos - start) (.fStrMiddle flags (text.slice start content.pos))
  else scan
 if flags.unclosed then scan.closeFStr
 else if flags.replacementFieldStart || flags.replacementFieldEnd then scan
 else (scan.pushBare content.pos (stop - content.pos) (.fStrEnd flags)).closeFStr

/-! Comments and notebook magics. -/

variable (start stop : Nat)
def addCmt (kind : CmtKind) :=
 {scan with
 pos := stop
 cmts := scan.cmts.push ⟨kind, ⟨start, stop - start⟩, text.slice start stop⟩}

/-- Records a directive for the current line; a later one on the same line replaces it. -/
def recordIgnore (table : Array (Nat × Directive)) (line : Nat) (directive : Directive) :=
 match table.back? with
 | some (last, _) => if last = line then table.pop.push (line, directive) else table.push (line, directive)
 | none => table.push (line, directive)

def cmt :=
 let start := scan.pos + 1
 let stop := text.skipWhile (!isBreak ·) start
 let value := text.slice start stop
 let line := scan.lines.size
 let scan := match Directive.ofCmt? value start "type:" with
  | some directive =>
   if scan.tokens.all fun token => token.isNewLine || token.isIndent then {scan with typeIgnoreAll := directive}
   else {scan with typeIgnoreLines := recordIgnore scan.typeIgnoreLines line directive}
  | none => scan
 let scan := match Directive.ofCmt? value start "pyright:" with
  | some directive => {scan with ruleIgnoreLines := recordIgnore scan.ruleIgnoreLines line directive}
  | none => scan
 scan.addCmt text start stop .regular

/-- Whether a line magic goes on after its line: it ends with a backslash and blanks. -/
def continuesMagic :=
 let line := (text.slice start stop).trimEnd
 0 < line.size && line.unit (line.size - 1) == 0x5C

variable (isCell : Bool)
def magicEnd (start : Nat) := go (text.size + 1 - start) start start
where
 go : Nat -> Nat -> Nat -> Nat
  | 0, _, pos => pos
  | fuel + 1, lineStart, pos =>
   let stop := text.skipWhile (!isBreak ·) pos
   if !isCell && !continuesMagic text lineStart stop then stop
   else if text.size <= stop + 1 then min text.size (stop + 1)
   else go fuel (stop + 2) (stop + 1)

def magicKind : CmtKind :=
 if unit == unitOf '%' then if isCell then .cellMagic else .lineMagic
 else if isCell then .cellShellEscape else .shellEscape

/-- Reads a notebook magic when one starts at the read position. -/
def magic? : Option Scan :=
 let unit := text.unit scan.pos
 if scan.cells && (unit == unitOf '%' || unit == unitOf '!') && scan.atLineStart then
  let isCell := text.unit (scan.pos + 1) == unit
  let start := scan.pos + (if isCell then 2 else 1)
  some (scan.addCmt text start (magicEnd text isCell start) (magicKind unit isCell))
 else none

/-! Words. -/

/-- The end of an identifier whose first character has been read. -/
def identRest :=
 text.skipBy (fun pos =>
  if isIdentUnit (text.unit pos) then 1
  else if isIdentPair (text.unit pos) (text.unit (pos + 1)) then 2 else 0) start

/-- The end of the identifier at an offset; the offset itself when there is none. -/
def identEnd :=
 if isIdentStart (text.unit start) then identRest text (start + 1)
 else if isIdentStartPair (text.unit start) (text.unit (start + 1)) then identRest text (start + 2)
 else start

def identKind (word : String) : TokenKind :=
 match Kw.ofSpelling? word with
 | some kw => .kw kw
 | none => .ident (normalizeCompatibility word)

def opAt? : Option (Op × Nat) :=
 let next := text.unit (pos + 1)
 let third := text.unit (pos + 2)
 let equal := 0x3D
 let withEqual plain augmented := if next == equal then some (augmented, 2) else some (plain, 1)
 let doubled unit plain augmented double doubleAug :=
  if next == unit then if third == equal then some (doubleAug, 3) else some (double, 2)
  else withEqual plain augmented
 match Char.ofNat (text.unit pos).toNat with
 | '+' => withEqual .add .addEqual
 | '&' => withEqual .bitwiseAnd .bitwiseAndEqual
 | '|' => withEqual .bitwiseOr .bitwiseOrEqual
 | '^' => withEqual .bitwiseXor .bitwiseXorEqual
 | '=' => withEqual .assign .equals
 | '!' => if next == equal then some (.notEquals, 2) else none
 | '%' => withEqual .mod .modEqual
 | '~' => some (.bitwiseInvert, 1)
 | '-' => withEqual .subtract .subtractEqual
 | '*' => doubled 0x2A .multiply .multiplyEqual .power .powerEqual
 | '/' => doubled 0x2F .divide .divideEqual .floorDivide .floorDivideEqual
 | '<' =>
  if next == 0x3E then some (.lessOrGreaterThan, 2)
  else doubled 0x3C .lessThan .lessThanOrEqual .leftShift .leftShiftEqual
 | '>' => doubled 0x3E .greaterThan .greaterThanOrEqual .rightShift .rightShiftEqual
 | '@' => withEqual .matrixMultiply .matrixMultiplyEqual
 | _ => none

/-- The end of a run that no rule can read. -/
def invalidEnd :=
 text.skipBy (fun pos =>
  let unit := text.unit pos
  if isBreak unit || isSpacing unit then 0
  else if isIdentSurrogate unit && pos + 1 < text.size then 2 else 1) start

def invalid :=
 let stop := invalidEnd text scan.pos
 if scan.pos < stop then scan.take (stop - scan.pos) .invalid else {scan with pos := scan.pos + 1}

def atFieldDepth : Bool :=
 match scan.fStr with
 | some fStr => fStr.field.any (·.depth == scan.depth)
 | none => false

variable (kind : TokenKind)
def openBracket := {scan with depth := scan.depth + 1}.take 1 kind
def closeBracket := {scan with depth := scan.depth - 1}.take 1 kind

def openBrace : Scan :=
 let scan := scan.openBracket .openCurlyBrace
 match scan.fStr with
 | none => scan
 | some fStr =>
  let field := ⟨false, scan.depth⟩
  match fStr.field with
  | none => {scan with fStr := some {fStr with field := some field}}
  | some outer =>
   if outer.inFormat then
    {scan with
    fStr := some {fStr with field := field, outerFields := outer :: fStr.outerFields}}
   else scan

def closeBrace :=
 let scan :=
  if scan.atFieldDepth then
   {scan with
   fStr := scan.fStr.map fun fStr =>
    {fStr with field := fStr.outerFields.head?, outerFields := fStr.outerFields.tail}}
  else scan
 scan.closeBracket .closeCurlyBrace

/-- A colon at the depth of a replacement field starts its format specifier. -/
def colon :=
 if text.unit (scan.pos + 1) == 0x3D && !scan.atFieldDepth then scan.take 2 (.op .walrus)
 else
  let inField := scan.atFieldDepth
  let scan := scan.take 1 .colon
  if inField then
   {scan with
   fStr := scan.fStr.map fun fStr =>
    {fStr with field := fStr.field.map ({· with inFormat := true} )}}
  else scan

/-- A line continuation: the backslash and the line break after it. -/
def continuation :=
 if isBreak (text.unit (scan.pos + 1)) then
  let scan := {scan with pos := scan.pos + 1 + breakLen text (scan.pos + 1)}.endLine
  if scan.endsWithNewLine then scan.readIndent text else scan
 else scan.invalid text

/-- What stands at an offset: a word, digits that form no number, or nothing that a rule can read. -/
inductive Word where
 | known (kind : TokenKind) (stop : Nat)
 | malformed (digits : String)
 | unknown

def opWord : Word :=
 let unit := text.unit pos
 let next := text.unit (pos + 1)
 if unit == unitOf '!' && next != 0x3D && inFStr then .known .exclamationMark (pos + 1)
 else if unit == unitOf '-' && next == 0x3E then .known .arrow (pos + 2)
 else match opAt? text pos with
  | some (op, length) => .known (.op op) (pos + length)
  | none => .unknown

/-- The number, point, name or operator at an offset. -/
def wordAt : Word :=
 match numAt text pos with
 | .found value imag stop => .known (.number value imag) stop
 | .malformed digits => .malformed digits
 | .absent =>
  if text.unit pos == unitOf '.' then
   if text.unit (pos + 1) == unitOf '.' && text.unit (pos + 2) == unitOf '.' then .known .ellipsis (pos + 3)
   else .known .dot (pos + 1)
  else
   let stop := identEnd text pos
   if pos < stop then .known (identKind (text.slice pos stop).toString) stop else opWord text pos inFStr

def word :=
 match wordAt text scan.pos scan.fStr.isSome with
 | .known kind stop => scan.take (stop - scan.pos) kind
 | .malformed digits => {scan with pos := text.size, failure := some (.badInteger digits)}
 | .unknown => scan.invalid text

/-- Reads what stands at the read position, which lies inside the text. -/
def char :=
 match prefixLen? text scan.pos with
 | some prefixLen => scan.string text prefixLen
 | none =>
  let unit := text.unit scan.pos
  if unit == unitOf '#' then scan.cmt text
  else match scan.magic? text with
   | some scan => scan
   | none =>
    if unit == 0xFEFF then
     if scan.pos = 0 then {scan with pos := 1} else scan.invalid text
    else match Char.ofNat unit.toNat with
     | '\r' | '\n' => scan.newLine text
     | '\\' => scan.continuation text
     | '(' => scan.openBracket .openParen
     | ')' => scan.closeBracket .closeParen
     | '[' => scan.openBracket .openBracket
     | ']' => scan.closeBracket .closeBracket
     | '\x7b' => scan.openBrace
     | '\x7d' => scan.closeBrace
     | ',' => scan.take 1 .comma
     | '\x60' => scan.take 1 .backtick
     | ';' => scan.take 1 .semicolon
     | ':' => scan.colon text
     | _ => scan.word text

/-- The f-string whose literal part goes on at the read position. -/
def literal? := scan.fStr.filter (·.field.all (·.inFormat))

/-- Passes over the literal part of an f-string, or over blanks. -/
def lead :=
 match scan.literal? with
 | some fStr => scan.fStrMiddle text fStr
 | none => {scan with pos := text.skipWhile isSpacing scan.pos}

/-- One step: the literal part of an f-string or blanks, then one character or word. -/
def step :=
 let scan := scan.lead text
 if text.size <= scan.pos then scan else scan.char text

/-- Steps until the text has been read. -/
def run : Nat -> Scan -> Scan
 | 0, scan => scan
 | fuel + 1, scan => if text.size <= scan.pos then scan else run fuel (scan.step text)

def closeFStrs :=
 let ctxs := match scan.fStr with
  | some fStr => fStr :: scan.outers
  | none => []
 let scan := ctxs.foldl (fun scan fStr =>
  scan.pushBare scan.pos 0 (.fStrEnd {fStr.flags with unclosed := true})) scan
 {scan with fStr := none, outers := []}

/-- An empty line follows a last line that ends with a line break. -/
def closeLines (lines : LineTable) (pos : Nat) : LineTable :=
 match lines.back? with
 | some line => if isBreak (text.unit (line.stop - 1)) then lines.push ⟨pos, 0⟩ else lines
 | none => lines

/-- Closes the open strings, the last line and the open indents. -/
def closeTokens :=
 let scan := scan.closeFStrs
 let scan := if !scan.endsWithNewLine && scan.depth = 0 then scan.push scan.pos 0 (.newLine .implied) else scan
 scan.setIndent scan.pos ⟨0, 0, false, false⟩

/-- The tokens at the end of the text. -/
def finish :=
 let scan := (scan.closeTokens.push scan.pos 0 .eof).endLine
 {scan with lines := closeLines text scan.lines scan.pos}

def predominantEndOfLine :=
 if scan.crLfCount < scan.crCount && scan.lfCount < scan.crCount then "\r"
 else if scan.crCount < scan.crLfCount && scan.lfCount < scan.crLfCount then "\r\n"
 else "\n"

/-- The predominant indent: a tab, or the average width between one and eight spaces. -/
def predominantTab? : String? :=
 if scan.indentCount < 2 * scan.indentTabCount then "\t"
 else if 0 < scan.indentCount then
  let average := (2 * scan.indentSpacesTotal + scan.indentCount) / (2 * scan.indentCount)
  some (String.ofList (List.replicate (min 8 (max 1 average)) ' '))
 else none

def result : TokenizedText :=
 {tokens := scan.tokens, lines := scan.lines
  typeIgnoreLines := scan.typeIgnoreLines, typeIgnoreAll := scan.typeIgnoreAll
  ruleIgnoreLines := scan.ruleIgnoreLines
  endOfLine := scan.predominantEndOfLine
  hasTab := scan.predominantTab?.isSome
  tab := scan.predominantTab?.getD "    "
  quote := if scan.doubleQuoteCount <= scan.singleQuoteCount then "'" else "\""}

end Scan

/-- How a text is to be read. -/
structure ScanOpts where
 (start length : Int? := none)
 depth := 0
 cells := false

/-- Reads a text, or a part of it, into tokens. -/
def tokenize? (text : Text) (opts : ScanOpts := {}) : Except ScanError TokenizedText :=
 let start := opts.start.getD 0
 let length := opts.length.getD text.size
 if start < 0 || (text.size : Int) < start then .error (.badStart start text.size)
 else if opts.length.isSome && (length < 0 || (text.size : Int) < start + length) then
  .error (.badLength start length text.size)
 else
  let text := text.slice 0 (start + length).toNat
  let scan : Scan := {pos := start.toNat, cells := opts.cells, depth := opts.depth}
  let scan := if start = 0 then scan.readIndent text else scan
  let scan := (scan.run text (2 * text.size + 2)).finish text
  match scan.failure with
  | some failure => .error failure
  | none => .ok scan.result

end TypeChecker
