/-! Text as a sequence of UTF-16 code units. -/

namespace TypeChecker

/-- A text as its UTF-16 code units. Surrogates need not be paired. -/
abbrev Text := Array UInt16
abbrev Text? := Option Text
abbrev String? := Option String
abbrev Strings := List String
abbrev Bool? := Option Bool
abbrev Nat? := Option Nat
abbrev ByName (α : Type) := List (String × α)
abbrev Int? := Option Int

/-- The words of a text, between blanks and line breaks. -/
def words (text : String) : Strings := (text.replace "\n" " ").splitOn " "

@[inline] def unitOf (char : Char) := char.val.toUInt16
def isHighSurrogate (unit : UInt16) := 0xD800 <= unit && unit <= 0xDBFF
def isLowSurrogate (unit : UInt16) := 0xDC00 <= unit && unit <= 0xDFFF
def pairCodePoint (high low : UInt16) := 0x10000 + (high.toNat - 0xD800) * 0x400 + (low.toNat - 0xDC00)

namespace Text

def ofCodePoint (codePoint : Nat) : Text :=
 if codePoint < 0x10000 then #[codePoint.toUInt16]
 else #[(0xD800 + (codePoint - 0x10000) / 0x400).toUInt16, (0xDC00 + (codePoint - 0x10000) % 0x400).toUInt16]

variable (text : Text)
def pushChar (char : Char) : Text :=
 if char.toNat < 0x10000 then text.push char.val.toUInt16 else text ++ ofCodePoint char.toNat

variable (source : String)
def ofString := source.toList.foldl pushChar #[]

/-- The number of UTF-16 code units of a string. -/
def lengthOf := source.foldl (fun count char => if char.toNat < 0x10000 then count + 1 else count + 2) 0
@[inline] def unit (pos : Nat) := text.getD pos 0

/-- The units from `start` up to, not including, `stop`. -/
@[inline] def slice (start stop : Nat) : Text := text.extract start stop

/-- Reads the characters from an offset on; `none` marks an unpaired surrogate. -/
def decodeFrom (pos fuel : Nat) (found : Array (Option Char)) :=
 match fuel with
 | 0 => found
 | fuel + 1 =>
  if pos < text.size then
   let first := text.unit pos
   let second := text.unit (pos + 1)
   if isHighSurrogate first && isLowSurrogate second then
    decodeFrom (pos + 2) fuel (found.push (Char.ofNat (pairCodePoint first second)))
   else if isHighSurrogate first || isLowSurrogate first then decodeFrom (pos + 1) fuel (found.push none)
   else decodeFrom (pos + 1) fuel (found.push (Char.ofNat first.toNat))
  else found

/-- The characters of a text; `none` stands for an unpaired surrogate. -/
def decode := decodeFrom text 0 text.size #[]

def toString? :=
 if text.all fun unit => unit < 0xD800 || 0xDFFF < unit then
  some (text.foldl (fun result unit => result.push (Char.ofNat unit.toNat)) "")
 else
  (decode text).foldl
   (fun result char => match result, char with
    | some result, some char => result.push char
    | _, _ => none)
   ""

/-- The text as a string, with a replacement character for each unpaired surrogate. -/
def toString : String :=
 if let some result := text.toString? then result
 else (decode text).foldl (fun result char => result.push (char.getD '�')) ""

/-- Goes on from `pos` by the width of what stands there, up to a width of zero or the end. -/
def skipBy (width : Nat -> Nat) (pos : Nat) := go (text.size - pos) pos
where
 go : Nat -> Nat -> Nat
  | 0, pos => pos
  | fuel + 1, pos => if pos < text.size ∧ 0 < width pos then go fuel (pos + width pos) else pos

/-- The first offset from `pos` on whose unit fails the test, or the end of the text. -/
@[inline] def skipWhile (test : UInt16 -> Bool) (pos : Nat) :=
 text.skipBy (fun pos => if test (text.unit pos) then 1 else 0) pos

def hasAt (pat : String) (pos : Nat) :=
 let units := ofString pat
 text.slice pos (pos + units.size) == units

/-- A deterministic order: code unit by code unit, a shorter text before its extensions. -/
def compare (left right : Text) := go (min left.size right.size) 0
where
 go : Nat -> Nat -> Ordering
  | 0, _ => Ord.compare left.size right.size
  | fuel + 1, pos =>
   match Ord.compare (left.unit pos) (right.unit pos) with
   | .eq => go fuel (pos + 1)
   | order => order

end Text
variable (left right : String)
/-- Strings in the order of their UTF-16 code units. -/
def compareUnits := Text.compare (Text.ofString left) (Text.ofString right)
def unitsLess := compareUnits left right == .lt

end TypeChecker
