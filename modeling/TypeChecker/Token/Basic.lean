import TypeChecker.Text.Range

/-! Tokens: the words of a source text. Integers are read in four radixes with underscores between digits; what does
not fit the integer forms is tried as a decimal fraction. -/

namespace TypeChecker

/-! Keywords. -/

inductive Kw where
 | andKw | asKw | assertKw | asyncKw | awaitKw | breakKw | caseKw | classKw | continueKw
 | debugKw | defKw | delKw | elifKw | elseKw | exceptKw | falseKw | finallyKw | forKw | fromKw
 | globalKw | ifKw | importKw | inKw | isKw | lambdaKw | matchKw | noneKw | nonlocalKw | notKw
 | orKw | passKw | raiseKw | returnKw | trueKw | tryKw | typeKw | whileKw | withKw | yieldKw
 deriving DecidableEq

/-- How the keywords are written, in their order. -/
def Kw.spellings := [
 "and", "as", "assert", "async", "await", "break", "case", "class", "continue", "__debug__", "def", "del", "elif",
 "else", "except", "False", "finally", "for", "from", "global", "if", "import", "in", "is", "lambda", "match",
 "None", "nonlocal", "not", "or", "pass", "raise", "return", "True", "try", "type", "while", "with", "yield"]

variable (kw : Kw)
def Kw.spelling := spellings.getD kw.ctorIdx ""
def Kw.name := if kw == debugKw then "Debug" else kw.spelling.capitalize
def Kw.ofSpelling? (word : String) := (spellings.idxOf? word).map ofNat

/-- Keywords that may also be used as names. -/
def Kw.isSoft : Kw -> Bool
 | .debugKw | .matchKw | .caseKw | .typeKw => true
 | _ => false

/-- Whether a name is a keyword. The three contextual ones count only when asked for. -/
def isKw (name : String) (includeContextual : Bool := false) : Bool :=
 match Kw.ofSpelling? name with
 | none | some .andKw => false
 | some .matchKw | some .caseKw | some .typeKw => includeContextual
 | some _ => true


/-! Operators. -/

inductive Op where
 | add | addEqual | assign | bitwiseAnd | bitwiseAndEqual | bitwiseInvert | bitwiseOr
 | bitwiseOrEqual | bitwiseXor | bitwiseXorEqual | divide | divideEqual | equals | floorDivide
 | floorDivideEqual | greaterThan | greaterThanOrEqual | leftShift | leftShiftEqual
 | lessOrGreaterThan | lessThan | lessThanOrEqual | matrixMultiply | matrixMultiplyEqual | mod
 | modEqual | multiply | multiplyEqual | notEquals | power | powerEqual | rightShift
 | rightShiftEqual | subtract | subtractEqual | walrus | and | or | not | is | isNot | isIn
 | notIn
 deriving DecidableEq

/-- The display names of the operators, in their order. -/
def Op.names :=
 words "Add AddEqual Assign BitwiseAnd BitwiseAndEqual BitwiseInvert BitwiseOr BitwiseOrEqual BitwiseXor BitwiseXorEqual
Divide DivideEqual Equals FloorDivide FloorDivideEqual GreaterThan GreaterThanOrEqual LeftShift LeftShiftEqual
LessOrGreaterThan LessThan LessThanOrEqual MatrixMultiply MatrixMultiplyEqual Mod ModEqual Multiply MultiplyEqual
NotEquals Power PowerEqual RightShift RightShiftEqual Subtract SubtractEqual Walrus And Or Not Is IsNot In NotIn"

def Op.all := (List.range names.length).map ofNat

variable (op : Op)
def Op.name := names.getD op.ctorIdx ""

structure Op.Uses where
 (unary binary assignment comparison obsolete : Bool := false)

def Op.Uses.toNat (uses : Op.Uses) :=
 uses.unary.toNat + 2 * uses.binary.toNat + 4 * uses.assignment.toNat +
 8 * uses.comparison.toNat + 16 * uses.obsolete.toNat

/-- The uses of an operator; the assignment expression sign has no entry. -/
def Op.uses? : Op -> Option Op.Uses
 | .add => some {unary := true, binary := true}
 | .bitwiseInvert | .not => some {unary := true}
 | .equals | .notEquals | .lessThan | .lessThanOrEqual | .greaterThan | .greaterThanOrEqual =>
  some {binary := true, comparison := true}
 | .lessOrGreaterThan => some {binary := true, comparison := true, obsolete := true}
 | .assign | .addEqual | .bitwiseAndEqual | .bitwiseOrEqual | .bitwiseXorEqual | .divideEqual
 | .floorDivideEqual | .leftShiftEqual | .matrixMultiplyEqual | .modEqual | .multiplyEqual
 | .powerEqual | .rightShiftEqual | .subtractEqual => some {assignment := true}
 | .walrus => none
 | _ => some {binary := true}

def Op.isAssign := op.uses?.any (·.assignment)
def Op.isComparison := op.uses?.any (·.comparison)

/-- Whether `a op b op c` means `a op b and b op c`. -/
def Op.chains : Op -> Bool
 | .equals | .notEquals | .lessThan | .lessThanOrEqual | .greaterThan | .greaterThanOrEqual
 | .is | .isNot | .isIn | .notIn => true
 | _ => false

/-- How an operator is written; a unary word keeps its blank. -/
def Op.sym := [
 "+", "+=", "=", "&", "&=", "~", "|", "|=", "^", "^=", "/", "/=", "==", "//", "//=", ">", ">=", "<<", "<<=", "<>",
 "<", "<=", "@", "@=", "%", "%=", "*", "*=", "!=", "**", "**=", ">>", ">>=", "-", "-=", "unknown", "and", "or",
 "not ", "is", "is not", "in", "not in"].getD op.ctorIdx ""

/-! String flags. -/

/-- How a string is delimited and what its scanning met. -/
structure StrFlags where
 (singleQuote doubleQuote triplicate raw unicode bytes format tmpl replacementFieldStart : Bool := false)
 (replacementFieldEnd namedUnicodeEscape unclosed : Bool := false)

namespace StrFlags

def toNat (flags : StrFlags) :=
 flags.singleQuote.toNat + 0x2 * flags.doubleQuote.toNat + 0x4 * flags.triplicate.toNat +
 0x8 * flags.raw.toNat + 0x10 * flags.unicode.toNat + 0x20 * flags.bytes.toNat +
 0x40 * flags.format.toNat + 0x80 * flags.tmpl.toNat +
 0x100 * flags.replacementFieldStart.toNat + 0x200 * flags.replacementFieldEnd.toNat +
 0x400 * flags.namedUnicodeEscape.toNat + 0x10000 * flags.unclosed.toNat

variable (flags : StrFlags)
def set : String -> StrFlags
 | "SingleQuote" => {flags with singleQuote := true}
 | "DoubleQuote" => {flags with doubleQuote := true}
 | "Triplicate" => {flags with triplicate := true}
 | "Raw" => {flags with raw := true}
 | "Unicode" => {flags with unicode := true}
 | "Bytes" => {flags with bytes := true}
 | "Format" => {flags with format := true}
 | "Template" => {flags with tmpl := true}
 | "ReplacementFieldStart" => {flags with replacementFieldStart := true}
 | "ReplacementFieldEnd" => {flags with replacementFieldEnd := true}
 | "NamedUnicodeEscape" => {flags with namedUnicodeEscape := true}
 | "Unterminated" => {flags with unclosed := true}
 | _ => flags

/-- Whether replacement fields are read inside the string. -/
def hasFields := flags.format || flags.tmpl

/-- The unit that closes the string. -/
def quote : UInt16 := if flags.singleQuote then 0x27 else 0x22
def quoteLen := if flags.triplicate then 3 else 1

end StrFlags

/-! Comments. -/

inductive CmtKind where
 | regular | lineMagic | shellEscape | cellMagic | cellShellEscape

def CmtKind.name : CmtKind -> String
 | .regular => "Regular"
 | .lineMagic => "IPythonMagic"
 | .shellEscape => "IPythonShellEscape"
 | .cellMagic => "IPythonCellMagic"
 | .cellShellEscape => "IPythonCellShellEscape"

/-- A comment or notebook magic without its introducing character. -/
structure Cmt where
 kind : CmtKind := .regular
 span : Span
 value : Text

/-- A directive that silences diagnostics; no rule list means all rules. -/
structure Directive where
 span : Span
 rules : Option (Array Part)

/-! Tokens. -/

inductive NewLineKind where
 | carriageReturn | lineFeed | carriageReturnLineFeed | implied
 deriving DecidableEq

def NewLineKind.name : NewLineKind -> String
 | .carriageReturn => "CarriageReturn"
 | .lineFeed => "LineFeed"
 | .carriageReturnLineFeed => "CarriageReturnLineFeed"
 | .implied => "Implied"

/-- The value of a number: integers beyond the exact range of a double are kept apart. -/
inductive NumVal where
 | plain (value : Nat)
 | big (value : Nat)
 | float (value : Float)

def maxExactInteger := (1 <<< 53) - 1

/-- The double nearest to a natural number, the even one of two; numbers too great for doubles have none. -/
def nearest? (value : Nat) : Nat? :=
 let unit := 1 <<< (value.log2 - 52)
 let low := value / unit
 let rest := 2 * (value % unit)
 let near := (if unit < rest || (unit == rest && low % 2 == 1) then low + 1 else low) * unit
 if near.log2 < 1024 then near else none

/-- The value of an integer. Whether it can be kept as a double is asked of the integer if its digits are decimal, else
of the double. -/
def NumVal.ofNat (isDecimal : Bool) (value : Nat) : NumVal :=
 if let some near := nearest? value then
  if (if isDecimal then value else near) <= maxExactInteger then .plain near else .big value
 else .big value

inductive TokenKind where
 | invalid
 | eof
 | newLine (kind : NewLineKind)
 | indent (amount : Nat) (ambiguous : Bool)
 | dedent (amount : Nat) (matchesIndent ambiguous : Bool)
 | string (flags : StrFlags) (escaped : Text) (prefixLen : Nat)
 | number (value : NumVal) (imag : Bool)
 | ident (value : String)
 | kw (kw : Kw)
 | op (op : Op)
 | colon | semicolon | comma
 | openParen | closeParen | openBracket | closeBracket
 | openCurlyBrace | closeCurlyBrace
 | ellipsis | dot | arrow | backtick | exclamationMark
 | fStrStart (flags : StrFlags) (prefixLen : Nat)
 | fStrMiddle (flags : StrFlags) (escaped : Text)
 | fStrEnd (flags : StrFlags)
 deriving Inhabited

/-- The kind of a token without what it carries, in the order of the kinds. -/
inductive TokenCat where
 | invalid | eof | newLine | indent | dedent | string | number | ident | kw
 | op | colon | semicolon | comma | openParen | closeParen | openBracket
 | closeBracket | openCurlyBrace | closeCurlyBrace | ellipsis | dot | arrow | backtick
 | exclamationMark | fStrStart | fStrMiddle | fStrEnd
 deriving DecidableEq

variable (kind : TokenKind)
def TokenKind.cat : TokenCat := .ofNat kind.ctorIdx

def TokenKind.name :=
 (words "Invalid EndOfStream NewLine Indent Dedent String Number Identifier Keyword Operator Colon Semicolon Comma
OpenParenthesis CloseParenthesis OpenBracket CloseBracket OpenCurlyBrace CloseCurlyBrace Ellipsis Dot Arrow
Backtick ExclamationMark FStringStart FStringMiddle FStringEnd").getD kind.ctorIdx ""

def TokenKind.isLayout := kind matches .newLine _ | .indent .. | .dedent ..

structure Token where
 span : Span
 kind : TokenKind
 cmts : Array Cmt := #[]
 deriving Inhabited

instance : Coe Token Span := ⟨(·.span)⟩
abbrev Token? := Option Token

namespace Token
variable (token : Token)
@[inline] def start := token.span.start
@[inline] def stop := token.span.stop
def cat : TokenCat := token.kind.cat

variable (token : Token)
def isNewLine := token.kind matches .newLine _
def isIndent := token.kind matches .indent ..
def isLayout := token.kind.isLayout
def isKw (kw : Kw) := if let .kw found := token.kind then found == kw else false
def isOp (op : Op) := if let .op found := token.kind then found == op else false

/-- Where the value of a string is looked for. -/
def valueSpan? : Span? :=
 if let .string flags _ _ := token.kind then
  let quote := flags.quoteLen
  let ending := if flags.unclosed then 0 else quote
  some ⟨token.start + quote, token.span.length - quote - ending⟩
 else none

end Token

/-- The words of a text with its line table and the facts gathered while reading it. -/
structure TokenizedText where
 tokens : Array Token
 lines : LineTable
 typeIgnoreLines : Array (Nat × Directive)
 typeIgnoreAll : Option Directive
 ruleIgnoreLines : Array (Nat × Directive)
 endOfLine : String
 hasTab : Bool
 (tab quote : String)

/-- The comments of the tokens in their order. -/
def cmtsOf (tokens : Array Token) : List Cmt := tokens.toList.flatMap (·.cmts.toList)

namespace Directive

def isRuleListUnit (unit : UInt16) := isBlank unit || isWordUnit unit || unit == unitOf '-' || unit == unitOf ','

/-- The place of a directive in a comment: where the word starts, where the directive ends, and the
bounds of its rule list. -/
structure Place where
 (wordStart stop : Nat)
 list : Option (Nat × Nat)

variable (value : Text) (word : String)
/-- Reads the directive after an introducer that ends at `pos`. -/
def placeAt? (pos : Nat) : Option Place :=
 let wordStart := value.skipWhile isBlank pos
 if value.hasAt word wordStart then
  let ignoreStart := value.skipWhile isBlank (wordStart + word.length)
  if value.hasAt "ignore" ignoreStart then
   let tail := ignoreStart + 6
   let bracket := value.skipWhile isBlank tail
   let listEnd := value.skipWhile isRuleListUnit (bracket + 1)
   if value.unit bracket == unitOf '[' && value.unit listEnd == unitOf ']' then
    some ⟨wordStart, listEnd + 1, (bracket + 1, listEnd)⟩
   else if tail < value.size && isBlank (value.unit tail) then some ⟨wordStart, tail + 1, none⟩
   else if tail = value.size then some ⟨wordStart, tail, none⟩
   else none
  else none
 else none

/-- The first directive of a comment: at its start or after a number sign. -/
def find? : Option Place :=
 ((List.range (value.size + 1)).filter fun pos => pos == 0 || value.unit (pos - 1) == unitOf '#').findSome?
  (placeAt? value word)

/-- The entries of a rule list that starts at `start` and goes up to `stop`, blanks trimmed; `base`
is the offset of the comment in the source. -/
def rulesOf (base start stop : Nat) : Array Part :=
 let entries := partsFrom (base + start) ((value.slice start stop).split (unitOf ','))
 ((entries.filterMap (·.trim?)).filter (!·.text.isEmpty)).toArray

/-- The directive with the given leading word in a comment that stands at `base` in the source. -/
def ofCmt? (base : Nat) (word : String) : Option Directive :=
 (find? value word).map fun place =>
  {span := ⟨base + place.wordStart, place.stop - place.wordStart⟩
   rules := place.list.map fun (start, stop) => rulesOf value base start stop}

end Directive

/-! ## Digits -/

variable (unit : UInt16)
def isDecUnit := (0x30 <= unit && unit <= 0x39) || unit == 0x5F
def isHexUnit := isDecUnit unit || (0x61 <= unit && unit <= 0x66) || (0x41 <= unit && unit <= 0x46)
def isOctalUnit := (0x30 <= unit && unit <= 0x37) || unit == 0x5F
def isBinaryUnit := unit == 0x30 || unit == 0x31 || unit == 0x5F

def digitValue :=
 if unit <= 0x39 then unit.toNat - 0x30
 else if unit <= 0x46 then unit.toNat - 0x37
 else unit.toNat - 0x57

/-! ## Escape -/

/-- A string's value with the escapes that could not be read. -/
structure UnescapedString where
 value : Text
 errs : Array Span := #[]
 nonAsciiInBytes := false

namespace Escape
variable (escaped : Text)
def unitAt (pos : Nat) := escaped.getD pos 3
def isOctalDigit := 0x30 <= unit && unit <= 0x37

/-- What one escape sequence denotes: its units, the offset after it, and how many times it is
reported. -/
structure Reading where
 units : Text
 next : Nat
 reports := 0

/-- The value of `count` hexadecimal digits from an offset on. -/
def hexValue? (escaped : Text) (pos : Nat) : Nat -> Nat -> Nat?
 | 0, value => value
 | count + 1, value =>
  let unit := unitAt escaped pos
  if isHexUnit unit && unit != 0x5F then hexValue? escaped (pos + 1) count (16 * value + digitValue unit) else none

/-- Reads an escape with a fixed number of hexadecimal digits; `pos` is that of its letter. -/
def hexEscape (pos digitCount : Nat) : Reading :=
 if let some value := hexValue? escaped (pos + 1) digitCount 0 then ⟨#[value.toUInt16], pos + 1 + digitCount, 0⟩
 else ⟨#[0x5C, unitAt escaped pos], pos + 1, 1⟩

def isNameUnit := isWordUnit unit && unit != 0x5F || unit == unitOf '-' || unit == 0x20 || unit == 0x09

variable (pos : Nat) (isBytes : Bool)
/-- Reads a named escape; the character itself is not looked up and a hyphen stands for it. -/
def namedEscape : Reading :=
 let stop := escaped.skipWhile isNameUnit (pos + 2)
 if !isBytes && unitAt escaped (pos + 1) == 0x7B && unitAt escaped stop == 0x7D then ⟨#[unitOf '-'], stop + 1, 0⟩
 else ⟨#[0x5C, unitAt escaped pos], pos + 1, 1⟩

def octalEscape : Reading :=
 let first := (unitAt escaped pos).toNat - 0x30
 let second := unitAt escaped (pos + 1)
 let third := unitAt escaped (pos + 2)
 if isOctalDigit second then
  let two := 8 * first + (second.toNat - 0x30)
  if isOctalDigit third then ⟨#[(8 * two + (third.toNat - 0x30)).toUInt16], pos + 3, 0⟩
  else ⟨#[two.toUInt16], pos + 2, 0⟩
 else ⟨#[first.toUInt16], pos + 1, 0⟩

/-- Reads the escape whose backslash stands before `pos`. -/
def reading : Reading :=
 let unit := unitAt escaped pos
 let simple value := ⟨#[value], pos + 1, 0⟩
 if unit == 0x0D || unit == 0x0A then
  let length := if unit == 0x0D && unitAt escaped (pos + 1) == 0x0A then 2 else 1
  ⟨#[], pos + length, 0⟩
 else match Char.ofNat unit.toNat with
  | '\\' | '\'' | '"' => simple unit
  | 'a' => simple 0x07
  | 'b' => simple 0x08
  | 'f' => simple 0x0C
  | 'n' => simple 0x0A
  | 'r' => simple 0x0D
  | 't' => simple 0x09
  | 'v' => simple 0x0B
  | 'x' => hexEscape escaped pos 2
  | 'N' => namedEscape escaped pos isBytes
  | 'u' | 'U' =>
   let result := hexEscape escaped pos (if unit == unitOf 'u' then 4 else 8)
   if isBytes then {result with reports := result.reports + 1} else result
  | _ => if isOctalDigit unit then octalEscape escaped pos else ⟨#[0x5C], pos, 1⟩

def readFrom (escaped : Text) (isBytes elideCrLf : Bool) : Nat -> Nat -> UnescapedString -> UnescapedString
 | 0, _, result => result
 | fuel + 1, pos, result =>
  let unit := unitAt escaped pos
  if unit == 3 then result
  else if unit == 0x5C then
   let escape := reading escaped (pos + 1) isBytes
   readFrom escaped isBytes elideCrLf fuel escape.next
    {result with
    value := result.value ++ escape.units
    errs := result.errs ++ Array.replicate escape.reports ⟨pos, 2⟩}
  else if unit == 0x0D && unitAt escaped (pos + 1) == 0x0A then
   let value := if elideCrLf then result.value else result.value.push unit
   readFrom escaped isBytes elideCrLf fuel (pos + 2) {result with value := value.push 0x0A}
  else
   readFrom escaped isBytes elideCrLf fuel (pos + 1)
    {result with
    value := result.value.push unit
    nonAsciiInBytes := result.nonAsciiInBytes || (isBytes && 128 <= unit)}

end Escape

def unescape (escaped : Text) (flags : StrFlags) (elideCrLf : Bool := true) :=
 if flags.raw then {value := escaped}
 else if escaped.all fun unit => unit != 0x0D && unit != 0x0A && unit != 0x5C then
  {value := escaped, nonAsciiInBytes := flags.bytes && escaped.any (128 <= ·)}
 else Escape.readFrom escaped flags.bytes elideCrLf (escaped.size + 1) 0 {value := #[]}

def digitsValue (radix : Nat) (digits : Text) :=
 digits.foldl (fun value unit => if unit == 0x5F then value else radix * value + digitValue unit) 0

def nearestDouble (digits digitCount : Nat) (exponent : Int) :=
 if digits = 0 then 0.0
 else if 400 < exponent + digitCount then 1.0 / 0.0
 else if exponent + digitCount < -400 then 0.0
 else if 0 <= exponent then .ofScientific digits false exponent.toNat
 else .ofScientific digits true (-exponent).toNat

variable (text : Text)
def decimalPrefixValue :=
 let wholeEnd := text.skipWhile isDigitUnit 0
 let fractionEnd := if text.unit wholeEnd == unitOf '.' then text.skipWhile isDigitUnit (wholeEnd + 1) else wholeEnd
 let digits := text.slice 0 wholeEnd ++ text.slice (wholeEnd + 1) fractionEnd
 let places := fractionEnd - min fractionEnd (wholeEnd + 1)
 let mark := text.unit fractionEnd
 let sign := text.unit (fractionEnd + 1)
 let exponentStart := if sign == unitOf '+' || sign == unitOf '-' then fractionEnd + 2 else fractionEnd + 1
 let exponentEnd := text.skipWhile isDigitUnit exponentStart
 let exponent :=
  if (mark == unitOf 'e' || mark == unitOf 'E') && exponentStart < exponentEnd then
   let size : Int := digitsValue 10 (text.slice exponentStart exponentEnd)
   if sign == unitOf '-' then -size else size
  else 0
 nearestDouble (digitsValue 10 digits) digits.size (exponent - places)

inductive NumScan where
 /-- No number starts here. -/
 | absent
 /-- The digits do not form an integer literal. -/
 | malformed (digits : String)
 | found (value : NumVal) (imag : Bool) (stop : Nat)

/-- The radix that a marker letter after a zero announces, with the units its digits may use. -/
def radixOf? (marker : UInt16) : Option (Nat × (UInt16 -> Bool)) :=
 if marker == unitOf 'x' || marker == unitOf 'X' then (16, isHexUnit)
 else if marker == unitOf 'b' || marker == unitOf 'B' then (2, isBinaryUnit)
 else if marker == unitOf 'o' || marker == unitOf 'O' then (8, isOctalUnit)
 else none

def isImagMark := unit == unitOf 'j' || unit == unitOf 'J'

def withImagMark (value : NumVal) (stop : Nat) : NumScan :=
 if isImagMark (text.unit stop) then .found value true (stop + 1) else .found value false stop

def exponentEnd (mantissa : Nat) :=
 let mark := text.unit mantissa
 if mark == unitOf 'e' || mark == unitOf 'E' then
  let sign := text.unit (mantissa + 1)
  text.skipWhile isDecUnit (if sign == unitOf '-' || sign == unitOf '+' then mantissa + 2 else mantissa + 1)
 else mantissa

variable (start : Nat)
def mantissaEnd :=
 let whole := text.skipWhile isDecUnit start
 text.skipWhile isDecUnit (if text.unit whole == unitOf '.' then whole + 1 else whole)

def fractionEnd :=
 let mantissa := mantissaEnd text start
 if start < mantissa then exponentEnd text mantissa else mantissa

/-- Reads the number at an offset where a digit, or a point before a digit, stands. -/
def scanNum : NumScan :=
 let radix := if text.unit start == 0x30 then radixOf? (text.unit (start + 1)) else none
 if let some (radix, isDigit) := radix then
  if isDigit (text.unit (start + 2)) then
   let stop := text.skipWhile isDigit (start + 2)
   let digits := text.slice (start + 2) stop
   if digits.all (· == 0x5F) then scanDecimal start stop else .found (.ofNat false (digitsValue radix digits)) false stop
  else scanDecimal start start
 else scanDecimal start start
where
 endsInteger (unit : UInt16) : Bool := unit != unitOf '.' && unit != unitOf 'e' && unit != unitOf 'E'
 isNonZeroDigit (unit : UInt16) : Bool := 0x31 <= unit && unit <= 0x39
 /-- Reads a decimal integer whose digits go on at `pos`, else a fraction from `start`. -/
 scanDecimal (start pos : Nat) : NumScan :=
  let first := text.unit pos
  if isNonZeroDigit first then
   let stop := text.skipWhile isDecUnit pos
   if endsInteger (text.unit stop) then integer start stop else fraction start true
  else if first == 0x30 then
   let stop := text.skipWhile (fun unit => unit == 0x30 || unit == 0x5F) pos
   if endsInteger (text.unit stop) && !isNonZeroDigit (text.unit stop) then integer start stop
   else fraction start true
  else fraction start false
 integer (start stop : Nat) : NumScan :=
  let digits := (text.slice start stop).filter (· != 0x5F)
  if digits.all isDigitUnit then withImagMark text (.ofNat true (digitsValue 10 digits)) stop
  else .malformed (Text.toString digits)
 fraction (start : Nat) (startsWithDigit : Bool) : NumScan :=
  if startsWithDigit || (text.unit start == unitOf '.' && isDigitUnit (text.unit (start + 1))) then
   let stop := fractionEnd text start
   withImagMark text (.float (decimalPrefixValue (text.slice start stop))) stop
  else .absent

/-- The number at an offset, if one starts there. -/
def numAt :=
 if isDecUnit (text.unit start) ||
   (text.unit start == unitOf '.' && isDecUnit (text.unit (start + 1))) then scanNum text start
 else .absent

/-! What the spelling of a name says about it. -/

namespace Name
variable (name : String)
def isPrivate := 2 < Text.lengthOf name && name.startsWith "__" && !name.endsWith "__"
def isProtected := 1 < Text.lengthOf name && name.startsWith "_" && !name.startsWith "__"
def isPrivateOrProtected := isPrivate name || isProtected name

/-- Two underscores at both ends. -/
def isDunder := 4 < Text.lengthOf name && name.startsWith "__" && name.endsWith "__"
def isSingleDunder := 2 < Text.lengthOf name && name.startsWith "_" && name.endsWith "_"

/-- Capital letters, digits and underscores, and not only underscores. -/
def isConstant :=
 name != "" && (name.toList.all fun char => char.isUpper || char.isDigit || char == '_') && name.toList.any (· != '_')

/-- At most two underscores, a capital letter, then at least one word character. -/
def isTyAlias :=
 let chars := name.toList
 [0, 1, 2].any fun count =>
  (chars.take count).all (· == '_') && count <= chars.length &&
  if let first :: second :: rest := chars.drop count then
   first.isUpper && (second :: rest).all fun char => char.isAlphanum || char == '_'
  else false

def isPublicConstantOrTyAlias := !isPrivateOrProtected name && (isConstant name || isTyAlias name)

/-- Whether each unit of a text may stand in an identifier at its place. -/
def isIdent :=
 if let first :: rest := (Text.ofString name).toList then isIdentStart first && rest.all isIdentUnit else true

end Name
end TypeChecker
