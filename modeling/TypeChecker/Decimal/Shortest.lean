/-! The shortest decimal text of a double: the fewest digits that read back as the same number, and of several
such texts the nearest one. -/

namespace TypeChecker.Decimal

/-- A positive double as `mantissa * 2 ^ exponent`, with the distances in quarters of the last place
to the ends of the interval of reals that round to it. -/
structure Binary where
 mantissa : Nat
 exponent : Int
 isBoundary : Bool

variable (val : Float)
/-- The parts of a finite double, its sign left out. -/
def Binary.ofFloat : Binary :=
 let bits := val.toBits.toNat
 let fraction := bits % (1 <<< 52)
 let field := bits / (1 <<< 52) % (1 <<< 11)
 if field = 0 then {mantissa := fraction, exponent := -1074, isBoundary := false}
 else {mantissa := fraction + (1 <<< 52), exponent := (field : Int) - 1075, isBoundary := fraction = 0 && 1 < field}

/-- A decimal `digits * 10 ^ exponent`. -/
structure Digits where
 digits : Nat
 exponent : Int

/-- A positive double with the ends of its interval over one denominator. -/
structure Interval where
 (low val high den : Nat)
 /-- Whether the ends belong to the interval. -/
 closed : Bool

def Interval.ofBinary (binary : Binary) : Interval :=
 let scale := binary.exponent - 2
 let up := 1 <<< scale.toNat
 {low := (4 * binary.mantissa - if binary.isBoundary then 1 else 2) * up, val := 4 * binary.mantissa * up
  high := (4 * binary.mantissa + 2) * up, den := 1 <<< (-scale).toNat, closed := binary.mantissa % 2 = 0}

variable (interval : Interval)
/-- The power of ten just above the value. -/
def Interval.magnitude : Int :=
 if interval.den <= interval.val then (Nat.toDigits 10 (interval.val / interval.den)).length
 else below 400 1
where
 below : Nat -> Nat -> Int
  | 0, _ => 0
  | fuel + 1, places =>
   if interval.den <= interval.val * Nat.pow 10 places then 1 - (places : Int) else below fuel (places + 1)

/-- Whether `pick * 10 ^ exponent` lies in the interval, and its distance from the value over a
denominator that depends on the exponent only. -/
def Interval.distance? (pick : Nat) (exponent : Int) :=
 let point := pick * Nat.pow 10 exponent.toNat * interval.den
 let scale := Nat.pow 10 (-exponent).toNat
 let (low, val, high) := (interval.low * scale, interval.val * scale, interval.high * scale)
 if (low < point && point < high) || (interval.closed && (point == low || point == high)) then
  some (if point <= val then val - point else point - val)
 else none

/-- The nearer of the two neighbours of the value on the grid of `10 ^ exponent` that lie in the
interval; a tie goes to the even one. -/
def Interval.neighbour? (exponent : Int) :=
 let below := interval.val * Nat.pow 10 (-exponent).toNat / (interval.den * Nat.pow 10 exponent.toNat)
 match interval.distance? below exponent, interval.distance? (below + 1) exponent with
 | some lhs, some rhs => if lhs < rhs || (lhs == rhs && below % 2 == 0) then some below else some (below + 1)
 | some _, none => below
 | none, some _ => some (below + 1)
 | none, none => none

def shortest : Digits :=
 let interval := .ofBinary (.ofFloat val)
 go interval interval.magnitude 17 1
where
 go (interval : Interval) (magnitude : Int) : Nat -> Nat -> Digits
  | 0, count => ⟨interval.val / interval.den, magnitude - count⟩
  | fuel + 1, count =>
   if let some digits := interval.neighbour? (magnitude - count) then ⟨digits, magnitude - count⟩
   else go interval magnitude fuel (count + 1)

variable (digits : Digits)
/-- Strips zeros from the end of the digits. -/
def Digits.normal := go 20 digits
where
 go : Nat -> Digits -> Digits
  | 0, digits => digits
  | fuel + 1, digits =>
   if digits.digits != 0 && digits.digits % 10 == 0 then go fuel ⟨digits.digits / 10, digits.exponent + 1⟩
   else digits

def zeros (count : Nat) := String.ofList (List.replicate count '0')

/-- Digits in positional notation up to 21 places before and 6 zeros after the point, else with an
exponent that always has a sign. -/
def Digits.print :=
 let digits := digits.normal
 let text := toString digits.digits
 let count := text.length
 let point := count + digits.exponent
 if count <= point && point <= 21 then text ++ zeros (point - count).toNat
 else if 0 < point && point <= 21 then
  String.ofList (text.toList.take point.toNat) ++ "." ++ String.ofList (text.toList.drop point.toNat)
 else if -6 < point && point <= 0 then "0." ++ zeros (-point).toNat ++ text
 else
  let exponent := point - 1
  let mark := (if 0 <= exponent then "e+" else "e-") ++ toString exponent.natAbs
  match text.toList with
  | [] => mark
  | [digit] => String.ofList [digit] ++ mark
  | digit :: rest => String.ofList [digit] ++ "." ++ String.ofList rest ++ mark

/-- The text of a double that is not negative. -/
def printFloat :=
 if val == 0 then "0"
 else if val.isInf then "Infinity"
 else if val.isNaN then "NaN"
 else (shortest val).print

def nearestInteger (val : Nat) :=
 if val <= (1 <<< 53) then val
 else
  let binary := Binary.ofFloat (Float.ofNat val)
  binary.mantissa * (1 <<< binary.exponent.toNat)

/-- The text of an integer that is kept as a double. -/
def printInteger (val : Int) :=
 if val.natAbs <= (1 <<< 53) then toString val else (if val < 0 then "-" else "") ++ printFloat (.ofNat val.natAbs)

end TypeChecker.Decimal
