import TypeChecker.Tree.Facts

/-! Language versions, and conditions whose value is known before the program runs: constants, comparisons with the
version and the platform, and names with configured values. Components that a version leaves open compare as equal, so
`3.9` is equal to every `3.9.x`. -/

namespace TypeChecker

/-- The release levels that a version text may name, in their order. -/
def releaseLevels := ["alpha", "beta", "candidate", "final"]

structure Ver where
 (major minor : Int)
 micro : Int? := none
 level : String? := none
 serial : Int? := none

/-- The integer at the start of a text, blanks before it skipped; what follows it is ignored. -/
def leadingInteger? (src : String) : Int? :=
 let chars := src.toList.dropWhile isBlankChar
 let (negative, chars) := match chars with
  | '-' :: rest => (true, rest)
  | '+' :: rest => (false, rest)
  | _ => (false, chars)
 match chars.takeWhile Char.isDigit with
 | [] => none
 | digits =>
  let size : Int := Decimal.nearestInteger (digits.foldl (fun val digit => 10 * val + (digit.toNat - 48)) 0)
  some (if negative then -size else size)

namespace Ver

/-- Compares two components and goes on with `rest` if they are equal; an open component ends the
comparison with equality. -/
def compareOpen {α : Type} (order : α -> α -> Ordering) (lhs rhs : Option α) (rest : Ordering) :=
 match lhs, rhs with
 | some lhs, some rhs => (order lhs rhs).then rest
 | _, _ => .eq

variable (ver lhs rhs : Ver)
/-- Compares the components after the minor one, most significant first. -/
def compareTails :=
 compareOpen compare lhs.micro rhs.micro
  (compareOpen compareUnits lhs.level rhs.level (compareOpen compare lhs.serial rhs.serial .eq))

def compare := (Ord.compare lhs.major rhs.major).then ((Ord.compare lhs.minor rhs.minor).then (compareTails lhs rhs))

def isEqualTo := lhs.compare rhs == .eq
def isGreaterThan := lhs.compare rhs == .gt
def isAtLeast := lhs.isEqualTo rhs || lhs.isGreaterThan rhs
def isLessThan := !lhs.isAtLeast rhs
def isAtMost := !lhs.isGreaterThan rhs
def three (minor : Int) : Ver := {major := 3, minor}
def latest : Ver := three 13
def majorMinor := Decimal.printInteger ver.major ++ "." ++ Decimal.printInteger ver.minor

def print :=
 if let some micro := ver.micro then
  let text := ver.majorMinor ++ "." ++ Decimal.printInteger micro
  if let some level := ver.level then
   let text := text ++ "." ++ level
   if let some serial := ver.serial then text ++ "." ++ Decimal.printInteger serial else text
  else text
 else ver.majorMinor

def ofString? (src : String) : Option Ver :=
 if let major :: minor :: rest := src.splitOn "." then do
  let major <- leadingInteger? major
  let minor <- leadingInteger? minor
  return {major, minor
          micro := rest[0]?.bind leadingInteger?
          level := rest[1]?.filter releaseLevels.contains
          serial := rest[2]?.bind leadingInteger?}
 else none

end Ver

inductive ConstantVal where
 | bool (val : Bool)
 | text (val : String)

namespace ConstantVal

def isTrue : ConstantVal -> Bool
 | .bool val => val
 | .text val => !val.isEmpty

def text? : ConstantVal -> String?
 | .text val => val
 | .bool _ => none

end ConstantVal

/-- What static conditions may refer to. -/
structure StaticFacts where
 ver : Ver := .latest
 platform : String? := none
 constants : ByName ConstantVal := []
 typingAliases : Strings := []
 sysAliases : Strings := ["sys"]

namespace StaticCond

def platformName? : String -> String?
 | "Darwin" => "darwin"
 | "Windows" => "win32"
 | "Linux" => "linux"
 | _ => none

def osName? : String -> String?
 | "Darwin" => "posix"
 | "Windows" => "nt"
 | "Linux" => "posix"
 | _ => none

/-- Twice the value of a number below the exact limit; a fraction is put between its neighbours. -/
def halves? : NumVal -> Int?
 | .plain val => some (2 * val)
 | .float val =>
  let whole := val.floor
  let size : Int := whole.toUInt64.toNat
  some (if whole == val then 2 * size else 2 * size + 1)
 | .big _ => none

variable (op : Op) (node : Node)
def realNum? : Option NumVal := if let .number val false := node.kind then val else none

def verOfTup? (items : Nodes) : Option Ver :=
 match items with
 | [only] => do
  let major <- halves? (<- only.num?)
  pure {major, minor := 0}
 | majorNode :: minorNode :: rest => do
  let major <- halves? (<- realNum? majorNode)
  let minor <- halves? (<- realNum? minorNode)
  return {major, minor
          micro := (rest[0]?.bind realNum?).bind halves?
          level := (rest[1]?.bind Node.singleStr?).map Text.toString
          serial := (rest[2]?.bind realNum?).bind halves?}
 | [] => none

def doubled (ver : Ver) :=
 {ver with
 major := 2 * ver.major, minor := 2 * ver.minor
 micro := ver.micro.map (2 * ·), serial := ver.serial.map (2 * ·)}

def compareVersions? (lhs rhs : Ver) : Bool? :=
 match op with
 | .lessThan => lhs.isLessThan rhs
 | .lessThanOrEqual => lhs.isAtMost rhs
 | .greaterThan => lhs.isGreaterThan rhs
 | .greaterThanOrEqual => lhs.isAtLeast rhs
 | .equals => lhs.isEqualTo rhs
 | .notEquals => !lhs.isEqualTo rhs
 | _ => none

def compareTexts? (lhs rhs : String) : Bool? :=
 match op with
 | .equals => lhs == rhs
 | .notEquals => lhs != rhs
 | _ => none

/-- Whether the expression is a member of one of the named modules. -/
def isMemOf (aliases : Strings) (mem : String) (node : Node) :=
 if let .memAccess lhs hit := node.kind then lhs.nameVal?.any aliases.contains && hit.nameVal == mem else false

def stringsText? : String? :=
 match node.kind with
 | .strList strings _ _ => (String.join (strings.map fun part => if let .string _ val := part.kind then
   Text.toString val
  else ""))
 | _ => none

def lastName? : String? :=
 match node.kind with
 | .name val _ => val
 | .memAccess _ mem => mem.nameVal
 | _ => none

variable (facts : StaticFacts)
def constant? (name : String) := (facts.constants.find? (·.1 == name)).map (·.2)

/-- Whether the expression is the first component of the version. -/
def isMajorVer (node : Node) :=
 if let .idx lhs items trailComma := node.kind then
  isMemOf facts.sysAliases "version_info" lhs &&
   ((Node.plainSubscript? items trailComma).bind realNum?).any (NumVal.sameAs (.plain 0))
 else false

def comparison? (lhs : Node) (op : Op) (rhs : Node) : Bool? :=
 let tup? := if let .tup items _ := rhs.kind then items else none
 let text? := stringsText? rhs
 if isMemOf facts.sysAliases "version_info" lhs && tup?.isSome then do
  compareVersions? op (doubled facts.ver) (<- verOfTup? (<- tup?))
 else
  let major? : Int? := if let some (.plain val) := rhs.num? then some val else none
  match isMajorVer facts lhs, major? with
  | true, some major => compareVersions? op {major := facts.ver.major, minor := 0} {major, minor := 0}
  | _, _ =>
   if isMemOf facts.sysAliases "platform" lhs && text?.isSome then do
    compareTexts? op (<- facts.platform.bind platformName?) (<- text?)
   else if isMemOf ["os"] "name" lhs && text?.isSome then do
    compareTexts? op (<- facts.platform.bind osName?) (<- text?)
   else do
    let text <- text?
    let val <- (<- constant? facts (<- lastName? lhs)).text?
    compareTexts? op val text

/-- The value of a condition no higher than the first argument. With `countsNone`, the missing value
counts as false. -/
def valWithin : Nat -> Bool -> Node -> Bool?
 | 0, _, _ => none
 | fuel + 1, countsNone, node =>
  match node.kind with
  | .walrus _ _ rhs _ => valWithin fuel false rhs
  | .unary _ .not expr _ => (valWithin fuel true expr).map (!·)
  | .binary lhs _ op rhs _ =>
   match op with
   | .or => do
    let lhs <- valWithin fuel false lhs
    let rhs <- valWithin fuel false rhs
    return lhs || rhs
   | .and => do
    let lhs <- valWithin fuel false lhs
    let rhs <- valWithin fuel false rhs
    return lhs && rhs
   | _ => comparison? facts lhs op rhs
  | .const .trueKw => true
  | .const .falseKw => false
  | .const .noneKw => if countsNone then false else none
  | .name val _ => if val == "TYPE_CHECKING" then true else (constant? facts val).map (·.isTrue)
  | .memAccess _ mem =>
   if isMemOf facts.typingAliases "TYPE_CHECKING" node then true
   else (constant? facts mem.nameVal).map (·.isTrue)
  | _ => none

end StaticCond
variable (facts : StaticFacts) (cond : Node)
def StaticFacts.val? := StaticCond.valWithin facts Node.maxHeight false cond

/-- The truth of a condition, where the missing value counts as false. -/
def StaticFacts.truth? := StaticCond.valWithin facts Node.maxHeight true cond

end TypeChecker
