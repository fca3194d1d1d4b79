/-! Packed texts. The digits of a packed text single out a point of an interval, and each bit of the text
narrows the interval by how likely the bit is. -/

namespace TypeChecker.Packed

/-- Chances out of 4096 at odds in steps of 128, from -2048 on. -/
def curve : Array Int :=
 #[1, 2, 3, 6, 10, 16, 27, 45, 73, 120, 194, 310, 488, 747, 1101, 1546, 2047, 2549, 2994, 3348, 3607, 3785,
  3901, 3975, 4022, 4050, 4068, 4079, 4085, 4089, 4092, 4093, 4094]

/-- The chance out of 4096 at odds, which are natural logarithms in 256ths. -/
def chance (odds : Int) :=
 if 2047 < odds then 4095 else if odds < -2047 then 0
 else
  let place := (odds / 128 + 16).toNat
  let step := odds % 128
  ((curve.getD place 0 * (128 - step) + curve.getD (place + 1) 0 * step + 64) / 128).toNat

/-- The odds at every chance out of 4096. -/
def oddsTable :=
 let filled := (List.range 4095).foldl (fun table idx =>
  let odds := Int.ofNat idx - 2047
  table ++ Array.replicate (chance odds + 1 - table.size) odds) #[]
 filled ++ Array.replicate (4096 - filled.size) 2047

/-- The place of a character among the printable ones that need no escape in a literal. -/
def digitOf (code : UInt8) := code.toNat - 32 - ([34, 92, 123, 125].filter (· < code)).length
def isWordByte (code : Nat) := (Char.ofNat code).isAlphanum || code == 95
def spread : UInt64 := 0x9E3779B97F4A7C15

/-- The bytes that each kind of guess looks at; the others look at the word that has begun, at the marks
between the words of the line, and at what came before behind the same two or four bytes. -/
def masks : Array UInt64 := #[0, 0xFF, 0xFFFF, 0xFFFFFF, 0xFFFFFFFFFFFF, 0xFFFFFFFFFFFFFF, 0xFFF0F0]

/-- A slot holds a chance out of 65536 and how often it was met, at most 6 times: the chance moves towards
the bit that came, by less each time. -/
def adapt (isSet : Bool) (slot : UInt32) :=
 let likely : Int := (slot >>> 8).toNat
 let count := (slot &&& 255).toNat
 let moved := likely + (16 * ((if isSet then 65535 else 0) - likely)).tdiv (16 * count + 17)
 (max 128 (min 65407 moved)).toNat.toUInt32 * 256 + (min (count + 1) 6).toUInt32

/-- Reads a packed text of a number of bytes; the line breaks within it are no digits. -/
def unpack (size : Nat) (packed : String) := Id.run do
 let source := (packed.replace "\n" "").toUTF8
 let letter (idx : Nat) := digitOf (source[idx]?.getD 32)
 let digit (idx : Nat) : Nat := 91 * letter (2 * idx) + letter (2 * idx + 1)
 let odds := oddsTable
 let mut slots : Array UInt32 := Array.replicate (13 <<< 20) (32768 * 256)
 let mut weights : Array Int := Array.replicate (13 * 640) 6000
 let mut history : UInt64 := 0
 let mut word : UInt64 := 0
 let mut marks : UInt64 := 0
 let mut low := 0
 let mut high := (1 <<< 52) - 1
 let mut point := (List.range 4).foldl (fun point idx => 8192 * point + digit idx) 0
 let mut next := 4
 let mut text := ByteArray.empty
 let mut trails : Array UInt32 := Array.replicate 65536 0
 let mut places := Array.replicate 65536 0
 let mut place := 0
 let mut count := 0
 for _ in [0:size] do
  let expected := text[place]?.getD 0
  let met := min count 15
  let seen := if 0 < count then expected.toUInt64 + 256 * met.toUInt64 else 0
  let last := history &&& 255
  let pair := (history &&& 0xFFFF).toNat
  let contexts := (masks.map (history &&& ·) ++ #[word, marks * spread + last, seen,
   (trails.getD pair 0).toUInt64 * 256 + last, word + marks * spread, expected.toUInt64 * 256 + last]).map (· * spread)
  let mut node := 1
  for bit in [0:8] do
   let spots := contexts.mapIdx fun kind context => kind <<< 20 + (((context + node.toUInt64) * spread) >>> 44).toNat
   let guesses := spots.map fun spot => odds.getD (slots.getD spot 0 >>> 12).toNat 0
   let rows := [13 * node, 13 * (256 + last.toNat), 13 * (512 + 8 * met + bit)]
   let mut sum := 0
   for row in rows do for kind in [0:13] do sum := sum + weights.getD (row + kind) 0 * guesses.getD kind 0
   let likely := max 1 (min 4095 (chance (sum / 131072)))
   let middle := low + (high - low) / 4096 * likely
   let isSet : Bool := point <= middle
   if isSet then high := middle else low := middle + 1
   for _ in [0:4] do
    if low >>> 39 == high >>> 39 then
     low := low % (1 <<< 39) * 8192
     high := high % (1 <<< 39) * 8192 + 8191
     point := point % (1 <<< 39) * 8192 + digit next
     next := next + 1
   let miss := ((if isSet then 4096 else 0) - (likely : Int)) * 3
   for row in rows do
    for kind in [0:13] do weights := weights.modify (row + kind) (· + (guesses.getD kind 0 * miss + 8192) / 16384)
   for spot in spots do slots := slots.modify spot (adapt isSet)
   node := 2 * node + (if isSet then 1 else 0)
  let byte := node % 256
  trails := trails.modify pair (· * 256 + byte.toUInt32)
  history := history * 256 + byte.toUInt64
  word := if isWordByte byte then (word + byte.toUInt64) * spread else 0
  marks := if isWordByte byte then marks else if byte == 10 then 0 else (marks + byte.toUInt64) * 31
  text := text.push byte.toUInt8
  let key := (((history &&& 0xFFFFFFFF) * spread) >>> 48).toNat
  if 0 < count && expected == byte.toUInt8 then
   place := place + 1
   count := count + 1
  else
   place := places.getD key 0
   count := min place 1
  places := places.set! key text.size
 return String.fromUTF8? text |>.getD ""

end TypeChecker.Packed
