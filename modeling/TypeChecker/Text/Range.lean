import TypeChecker.Text.Unicode

/-! Places in a text: spans of code units, line and column positions, and sorted tables of spans with the
searches that the rest of the checker makes on them. -/

namespace TypeChecker
variable (unit : UInt16)
def isBlank :=
 unit == 0x20 || (0x09 <= unit && unit <= 0x0D) || unit == 0xA0 || unit == 0x1680 ||
 (0x2000 <= unit && unit <= 0x200A) || unit == 0x2028 || unit == 0x2029 || unit == 0x202F ||
 unit == 0x205F || unit == 0x3000 || unit == 0xFEFF

def isBlankChar (char : Char) := char.toNat < 0x10000 && isBlank char.val.toUInt16

/-- A digit proper, without the underscore. -/
def isDigitUnit := 0x30 <= unit && unit <= 0x39

/-- An ASCII letter, digit or underscore. -/
def isWordUnit :=
 (0x30 <= unit && unit <= 0x39) || (0x41 <= unit && unit <= 0x5A) || unit == 0x5F ||
 (0x61 <= unit && unit <= 0x7A)

namespace Text
variable (text : Text)
def trimStart := text.slice (text.skipWhile isBlank 0) text.size

def trimEnd : Text := text.popWhile isBlank
def trim := text.trimStart.trimEnd
def split (sep : UInt16) : List Text := (text.toList.splitOn sep).map (·.toArray)

end Text
variable (text : Text) (left right : String?)
def hashWord := text.foldl (fun hash unit => hash * 31 + unit.toUInt32) 0

def hashText : Int :=
 let word := (hashWord text).toNat
 if word < 1 <<< 31 then word else (word : Int) - (1 <<< 32 : Nat)

def hashString (source : String) := hashText (.ofString source)

/-- An absent text before all others; by code units otherwise. -/
def compareTexts : Ordering :=
 match left, right with
 | none, none => .eq
 | none, some _ => .lt
 | some _, none => .gt
 | some left, some right => compareUnits left right

/-- The order in which case does not count. -/
def compareIgnoringCase := compareTexts (left.map upperCase) (right.map upperCase)

/-- Whether the units of one list stand in another in their order. -/
def isSubsequence : List UInt16 -> List UInt16 -> Bool
 | [], _ => true
 | _ :: _, [] => false
 | head :: rest, other :: others =>
  if head == other then isSubsequence rest others else isSubsequence (head :: rest) others

/-- Whether a name holds the typed characters in their order; case does not count. -/
def nameMatches (typed name : String) :=
 isSubsequence (Text.ofString (lowerCase typed)).toList (Text.ofString (lowerCase name)).toList

variable (text : String)
/-- How often a text of one unit stands in another. -/
def countUnit (goal : String) :=
 if let [unit] := (Text.ofString goal).toList then (Text.ofString text).toList.count unit else 0

/-- What follows the last dot, unless there is none but at the front. -/
def afterLastDot :=
 let after := text.toList.reverse.takeWhile (· != '.')
 if after.length + 1 < text.length then String.ofList after.reverse else text

/-- A text of at most so many units; a longer one ends in three dots. -/
def truncate (limit : Int) : Text :=
 let units := .ofString text
 if limit < units.size then units.slice 0 (limit - 3).toNat ++ .ofString "..." else units

/-- The characters with a meaning of their own in a regular expression. -/
def exprSigns := ['\\', '^', '$', '.', '*', '+', '?', '(', ')', '[', ']', '\x7b', '\x7d', '|']

/-- A text that stands for itself in a regular expression. -/
def escapeExpr :=
 String.ofList (text.toList.flatMap fun char =>
  if exprSigns.contains char then ['\\', char] else [char])

end TypeChecker
namespace TypeChecker

/-- A run of code units: its first offset and its length. -/
structure Span where
 (start length : Nat)
 deriving DecidableEq, Inhabited

abbrev Span? := Option Span

/-- Why a span or a place in a table of spans does not exist. -/
inductive PlaceError where
 | negativeStart
 | negativeLength
 | endBeforeStart
 | idxOutOfRange
 | offsetOutsideLines

def PlaceError.msg : PlaceError -> String
 | .negativeStart => "Debug Failure. start must be non-negative"
 | .negativeLength => "Debug Failure. length must be non-negative"
 | .endBeforeStart => "Debug Failure. end must be greater than or equal to start"
 | .idxOutOfRange => "Debug Failure. index is out of range"
 | .offsetOutsideLines => "Debug Failure. False expression."

namespace Span
variable (span : Span)
/-- The offset after the last unit. -/
@[inline] def stop := span.start + span.length

def create? (start length : Int) : Except PlaceError Span :=
 if start < 0 then .error .negativeStart
 else if length < 0 then .error .negativeLength
 else .ok ⟨start.toNat, length.toNat⟩

def ofBounds? (start stop : Int) : Except PlaceError Span :=
 if start < 0 then .error .negativeStart
 else if stop < start then .error .endBeforeStart
 else create? start (stop - start)

def ofBounds (start stop : Nat) : Span := ⟨start, stop - start⟩
def contains (pos : Int) := span.start <= pos && pos < span.stop
def containsSpan (inner : Span) := span.start <= inner.start && inner.stop <= span.stop
def overlaps (pos : Int) := span.start <= pos && pos <= span.stop
def overlapsSpan (left right : Span) := left.overlaps right.start || right.overlaps left.start

def extend (ext : Span) :=
 let widened := if ext.start < span.start then ⟨ext.start, span.length + span.start - ext.start⟩ else span
 if widened.stop < ext.stop then ⟨widened.start, widened.length + ext.stop - widened.stop⟩ else widened

def extendMany (extensions : List Span) := extensions.foldl extend span

def combine? : List Span -> Span?
 | [] => none
 | first :: rest => extendMany first rest

end Span

structure Part where
 text : Text
 span : Span

/-- Cuts the blanks off both ends. The text has to be as long as the span, before and after that. -/
def Part.trim? (part : Part) : Option Part :=
 let rest := part.text.trimStart
 let text := rest.trimEnd
 let cut := part.text.size - rest.size
 let span := ⟨part.span.start + cut, part.span.length - cut - rest.size + text.size⟩
 if part.text.size == part.span.length && text.size == span.length then some ⟨text, span⟩ else none

def partsFrom (start : Nat) : List Text -> List Part
 | [] => []
 | text :: rest => ⟨text, start, text.size⟩ :: partsFrom (start + (text.size + 1)) rest

/-! Line and column positions. -/

structure Pos where
 (line char : Int)
 deriving DecidableEq, Inhabited

structure LineRange where
 (start stop : Pos)
 deriving DecidableEq, Inhabited

namespace Pos
variable (pos left right : Pos)
def compare := (Ord.compare left.line right.line).then (Ord.compare left.char right.char)
def isBefore := left.compare right == .lt
def isAtOrBefore := left.compare right != .gt
def isEmpty := pos.line == 0 && pos.char == 0
def print := "(" ++ toString pos.line ++ ":" ++ toString pos.char ++ ")"

end Pos
namespace LineRange
variable (left right range : LineRange)
def print := range.start.print ++ "-" ++ range.stop.print
def overlaps := right.start.isBefore left.stop && left.start.isBefore right.stop
def intersects := right.start.isAtOrBefore left.stop && left.start.isAtOrBefore right.stop
def containsPos (pos : Pos) := range.start.isAtOrBefore pos && pos.isAtOrBefore range.stop
def containsRange (inner : LineRange) := range.containsPos inner.start && range.containsPos inner.stop
def isEmpty := range.start.isEmpty && range.stop.isEmpty

def extend (ext : LineRange) : LineRange :=
 {start := if ext.start.isBefore range.start then ext.start else range.start
  stop := if range.stop.isBefore ext.stop then ext.stop else range.stop}

def combine? : List LineRange -> Option LineRange
 | [] => none
 | first :: rest => some (rest.foldl extend first)

end LineRange

/-! Tables of spans. The items are read through `spanOf`, so that tokens and lines share the searches. -/

namespace SpanTable
variable {α : Type} [Inhabited α] (spanOf : α -> Span) (items : Array α) (pos : Int)
def start := (items[0]?.map fun item => (spanOf item).start).getD 0
def stop := (items.back?.map fun item => (spanOf item).stop).getD 0
def length := (stop spanOf items : Int) - start spanOf items
def contains := start spanOf items <= pos && pos < stop spanOf items

def itemAt? (idx : Int) : Except PlaceError α :=
 if idx < 0 then .error .idxOutOfRange
 else if let some item := items[idx.toNat]? then .ok item else .error .idxOutOfRange

/-- Whether the table as a whole reaches the position, its end included. -/
def reaches := items.size != 0 && start spanOf items <= pos && pos <= stop spanOf items

def idxAt? : Nat? := if reaches spanOf items pos then go items.size 0 (items.size - 1) else none
where
 startOf (idx : Nat) : Int := (spanOf (items.getD idx default)).start
 go : Nat -> Nat -> Int -> Nat
  | 0, low, _ => low
  | fuel + 1, low, high =>
   if (low : Int) < high then
    let middle := low + (high - low).toNat / 2
    if startOf middle <= pos && (items.size - 1 <= middle || pos < startOf (middle + 1)) then middle
    else if pos < startOf middle then go fuel low (middle - 1)
    else go fuel (middle + 1) high
   else low

def nearestEntry? (items : Array (Option α)) (idx low high : Nat) : Option (Nat × α) :=
 if let some item := items.getD idx none then (idx, item)
 else if let some found := upward (high - idx) (idx + 1) then found else downward (idx - low) idx
where
 upward : Nat -> Nat -> Option (Nat × α)
  | 0, _ => none
  | fuel + 1, pick =>
   if let some item := items.getD pick none then (pick, item) else upward fuel (pick + 1)
 downward : Nat -> Nat -> Option (Nat × α)
  | 0, _ => none
  | fuel + 1, pick =>
   if let some item := items.getD (pick - 1) none then (pick - 1, item)
   else downward fuel (pick - 1)

/-- The entry for which `holds` accepts the position, by bisection of a sorted list with gaps. -/
def idxOfEntry? (items : Array (Option α)) (pos : Int) (holds : α -> Int -> Bool) :=
 if items.size = 0 then none else go (items.size + 1) 0 (items.size - 1)
where
 go : Nat -> Nat -> Int -> Nat?
  | 0, _, _ => none
  | fuel + 1, low, high =>
   if (low : Int) <= high then
    let middle := (low + high.toNat) / 2
    if let some (idx, item) := nearestEntry? items middle low high.toNat then
     if holds item pos then idx
     else if let some (_, next) := nearestEntry? items (middle + 1) (middle + 1) high.toNat then
       if middle < items.size - 1 && ((spanOf item).stop : Int) <= pos && pos < (spanOf next).start then none
       else if pos < (spanOf item).start then go fuel low ((middle : Int) - 1)
       else go fuel (middle + 1) high
      else none
    else none
   else none

def idxContaining? :=
 if reaches spanOf items pos then idxOfEntry? spanOf (items.map some) pos fun item pos => (spanOf item).contains pos
 else none

end SpanTable

/-! Lines. -/

abbrev LineTable := Array Span

namespace LineTable
variable (lines : LineTable) (off : Int)
def lineContaining? := if SpanTable.reaches id lines off then go (lines.size + 1) 0 (lines.size - 1) else none
where
 go : Nat -> Nat -> Int -> Nat?
  | 0, _, _ => none
  | fuel + 1, low, high =>
   if (low : Int) <= high then
    let middle := (low + high.toNat) / 2
    let span := lines.getD middle default
    if span.contains off then middle
    else if high.toNat < middle + 1 then none
    else
     let next := lines.getD (middle + 1) default
     if middle < lines.size - 1 && (span.stop : Int) <= off && off < next.start then none
     else if off < span.start then go fuel low ((middle : Int) - 1)
     else go fuel (middle + 1) high
   else none

/-- The line and column of an offset; offsets after the end lie on the last line. -/
def posOf? : Except PlaceError Pos :=
 let stop := SpanTable.stop id lines
 if stop = 0 then .ok ⟨0, 0⟩
 else
  let idx := if (stop : Int) <= off then some (lines.size - 1) else lineContaining? lines off
  if let some idx := idx then
   let line := lines.getD idx default
   .ok ⟨idx, max 0 (min (line.length : Int) (off - line.start))⟩
  else .error .offsetOutsideLines

def posOf (off : Nat) : Pos :=
 match posOf? lines off with
 | .ok pos => pos
 | .error _ => ⟨0, 0⟩

def rangeOf (span : Span) : LineRange := ⟨posOf lines span.start, posOf lines span.stop⟩

def rangeOf? (start stop : Int) : Except PlaceError LineRange := do
 let first <- posOf? lines start
 let last <- posOf? lines stop
 pure ⟨first, last⟩

/-- The offset of a position; `none` when the table has no such line. -/
def offsetOf? (pos : Pos) : Except PlaceError Int? :=
 if (lines.size : Int) <= pos.line then .ok none
 else do
  let line <- SpanTable.itemAt? lines pos.line
  return some (line.start + pos.char)

def spanOf? (range : LineRange) : Except PlaceError Span? := do
 if let some start <- offsetOf? lines range.start then
  if let some stop <- offsetOf? lines range.stop then return <- Span.ofBounds? start stop else pure none
 else pure none

def lineEnd? (text : Text) (line : Int) : Except PlaceError Nat := do
 let span <- SpanTable.itemAt? lines line
 return span.start + ((text.slice span.start span.stop).popWhile fun unit => unit == 0x0D || unit == 0x0A).size

end LineTable
end TypeChecker
