import Mathlib.Data.List.Forall2
import TypeChecker.Proofs.Text.Runs
import TypeChecker.StaticCondition

/-! Conditions on the version. A comparison of the version with a tuple is answered by the lexicographic order of the
two, except that they count as equal if one is a beginning of the other, and that a single number stands for the
first release of its series. -/

namespace TypeChecker
namespace Text

lemma compare_eq_lists (left right : Text) : compare left right = Ord.compare left.toList right.toList := by
 suffices ∀ fuel pos, fuel + pos = min left.size right.size ->
   compare.go left right fuel pos = Ord.compare (left.toList.drop pos) (right.toList.drop pos) from
  this _ 0 rfl
 intro fuel
 induction fuel with
 | zero =>
  intro pos atEnd
  rw [compare.go]
  cases isOwn : left.toList.drop pos <;> cases isOther : right.toList.drop pos
  all_goals
   have := congrArg List.length isOwn
   have := congrArg List.length isOther
   simp [Nat.compare_eq_lt, Nat.compare_eq_gt] at *
   omega
 | succ fuel known =>
  intro pos inside
  have inLeft : pos < left.size := by omega
  have inRight : pos < right.size := by omega
  rw [compare.go, known (pos + 1) (by omega), List.drop_eq_getElem_cons inLeft, List.drop_eq_getElem_cons inRight,
   List.compare_cons_cons]
  simp only [Text.unit, Array.getD, inLeft, inRight, dite_true, Array.getElem_toList]
  cases Ord.compare left[pos] right[pos] <;> rfl

end Text

/-- Strings in the order of their code units are in the order of their characters, if the first one is plain. -/
lemma compareUnits_eq {own other : String} (plain : ∀ letter ∈ own.toList, letter.toNat < 128) :
  compareUnits own other = compare own.toList other.toList := by
 have letters (own other : Char) : compare own other = compare own.toNat other.toNat := by
  simp only [compare, compareOfLessAndEq, Char.lt_def, UInt32.lt_iff_toNat_lt, Char.toNat_val, <- Char.toNat_inj]
 have units {own other : Nat} (low : own < 65536) (otherLow : other < 65536) :
   compare own.toUInt16 other.toUInt16 = compare own other := by
  simp [compare, compareOfLessAndEq, UInt16.lt_iff_toNat_lt, <- UInt16.toNat_inj, Nat.mod_eq_of_lt low,
   Nat.mod_eq_of_lt otherLow]
 rw [compareUnits, Text.compare_eq_lists, Text.toList_ofString, Text.toList_ofString]
 generalize own.toList = own, other.toList = other at plain ⊢
 induction own generalizing other with
 | nil =>
  cases other with
  | nil => rfl
  | cons letter other =>
   rw [List.flatMap_cons, Text.ofCodePoint]
   split <;> rfl
 | cons letter own known =>
  have low : letter.toNat < 128 := plain letter (by simp)
  have known := fun other => known other fun letter hit => plain letter (by simp [hit])
  have single {letter : Char} (low : letter.toNat < 65536) :
    Text.ofCodePoint letter.toNat = #[letter.toNat.toUInt16] := if_pos low
  rw [List.flatMap_cons, single (by omega)]
  cases other with
  | nil => rfl
  | cons high other =>
   rw [List.flatMap_cons, List.compare_cons_cons, letters, <- known]
   by_cases isLow : high.toNat < 65536
   · rw [single isLow]
     simp only [List.singleton_append, List.compare_cons_cons, units (show letter.toNat < 65536 by omega) isLow]
   · -- the first unit of a pair is above every plain character
     have small : high.toNat < 0x110000 := by
      have := high.valid
      simp [UInt32.isValidChar, Nat.isValidChar] at this
      omega
     have less : compare letter.toNat high.toNat = .lt := Nat.compare_eq_lt.mpr (by omega)
     rw [Text.ofCodePoint, if_neg isLow, less, List.cons_append, List.cons_append, List.compare_cons_cons,
      units (by omega) (by omega), Nat.compare_eq_lt.mpr (by omega)]
     rfl

/-- An entry of a version, or of a tuple that a version is compared with. -/
inductive Entry where
 | num (val : Int)
 | word (letters : List Char)
 deriving DecidableEq

namespace Entry

def order? : Entry -> Entry -> Option Ordering
 | .num own, .num other => some (compare own other)
 | .word own, .word other => some (compare own other)
 | _, _ => none

/-- The order of tuples by the first entries that differ, or else by how many are left. There is none where a number
meets a word. -/
def tupOrder? (byRest : Nat -> Nat -> Ordering) : List Entry -> List Entry -> Option Ordering
 | own :: rest, other :: others => if own = other then tupOrder? byRest rest others else own.order? other
 | rest, others => some (byRest rest.length others.length)

/-- The order in which a beginning is no less than the whole. -/
def openOrder? (own : List Entry) : List Entry -> Option Ordering
 | [only] => tupOrder? (fun _ _ => .eq) own [only, .num 0]
 | others => tupOrder? (fun _ _ => .eq) own others

/-- The value of a literal. -/
def ofNode? (node : Node) : Option Entry :=
 match node.kind, node.singleStr? with
 | .number (.plain val) false, _ => some (.num val)
 | .strList strings _ _, some val => if strings.any (·.strFlags.bytes) then none else some (.word val.toString.toList)
 | _, _ => none

end Entry
open Entry
/-- A version that leaves nothing open. -/
structure FullVer where
 (major minor micro serial : Int)
 level : String
 isLevel : level ∈ releaseLevels

namespace FullVer
variable (ver : FullVer)
def toVer : Ver :=
 { major := ver.major, minor := ver.minor, micro := some ver.micro, level := some ver.level
   serial := some ver.serial}

def entries : List Entry := [.num ver.major, .num ver.minor, .num ver.micro, .word ver.level.toList, .num ver.serial]

end FullVer

def Op.test? : Op -> Option (Ordering -> Bool)
 | .lessThan => some (·.isLT)
 | .lessThanOrEqual => some (·.isLE)
 | .greaterThan => some (·.isGT)
 | .greaterThanOrEqual => some (·.isGE)
 | .equals => some (·.isEq)
 | .notEquals => some (·.isNe)
 | _ => none

def Op.join? : Op -> Option (Bool -> Bool -> Bool)
 | .and => some Bool.and
 | .or => some Bool.or
 | _ => none

/-- The truth of a condition that is built from comparisons of the version with tuples, by an order of the two. -/
inductive Truth (aliases : Strings) (order? : List Entry -> Option Ordering) : Node -> Bool -> Prop
 | comparison {cond lhs rhs : Node} {token : Token} {op : Op} {test : Ordering -> Bool} {items : Nodes}
   {entries : List Entry} {order : Ordering} {parens inner : Bool}
   (isComparison : cond.kind = .binary lhs token op rhs parens)
   (isVer : StaticCond.isMemOf aliases "version_info" lhs) (isTup : rhs.kind = .tup items inner)
   (isTest : op.test? = some test) (reads : items.Forall₂ (ofNode? · = some ·) entries)
   (isOrder : order? entries = some order) : Truth aliases order? cond (test order)
 | not {cond expr : Node} {token : Token} {parens truth : Bool} (isNot : cond.kind = .unary token .not expr parens)
   (holds : Truth aliases order? expr truth) : Truth aliases order? cond !truth
 | join {cond lhs rhs : Node} {token : Token} {op : Op} {join : Bool -> Bool -> Bool} {parens first second : Bool}
   (isBinary : cond.kind = .binary lhs token op rhs parens) (isJoin : op.join? = some join)
   (isFirst : Truth aliases order? lhs first) (isSecond : Truth aliases order? rhs second) :
   Truth aliases order? cond (join first second)

namespace StaticCond
variable {ver : FullVer} {facts : StaticFacts} {node : Node} {own entry : Entry} {rest others entries : List Entry}
 {first tail order : Ordering} {byRest : Nat -> Nat -> Ordering} {items : Nodes} {answer : Bool}

/-- The first entries decide between the tuples, or else the rest does. -/
lemma then_of_tupOrder (isFirst : own.order? entry = some first)
  (isOrder : tupOrder? byRest (own :: rest) (entry :: others) = some order)
  (isTail : tupOrder? byRest rest others = some order -> tail = order) : first.then tail = order := by
 have same : first = .eq ↔ own = entry := by
  cases own <;> cases entry <;> simp [order?] at isFirst <;> simp [<- isFirst]
 rw [tupOrder?] at isOrder
 split at isOrder
 · next eq => rw [same.mpr eq, isTail isOrder]; rfl
 · next differ =>
   obtain rfl : first = order := Option.some.inj (isFirst.symm.trans isOrder)
   cases first <;> simp_all

lemma ofNode?_num {val : Int} (known : ofNode? node = some (.num val)) :
  node.num?.bind halves? = some (2 * val) ∧ (realNum? node).bind halves? = some (2 * val) := by
 unfold ofNode? at known
 split at known <;> simp_all [Node.num?, realNum?, halves?]

lemma ofNode?_word {letters : List Char} (known : ofNode? node = some (.word letters)) :
  node.num? = none ∧ realNum? node = none ∧ node.singleStr?.map (·.toString.toList) = some letters := by
 unfold ofNode? at known
 split at known <;> simp_all [Node.num?, realNum?]

lemma compare_double (own other : Int) : compare (2 * own) (2 * other) = compare own other := by
 simp only [compare, compareOfLessAndEq]
 split <;> split <;> grind

lemma compareOpen_num {own : Int} (known : ofNode? node = some entry)
  (isOrder : tupOrder? byRest (.num own :: rest) (entry :: others) = some order)
  (isTail : tupOrder? byRest rest others = some order -> tail = order) :
  Ver.compareOpen compare (some (2 * own)) ((realNum? node).bind halves?) tail = order := by
 cases entry with
 | num val =>
  rw [(ofNode?_num known).2, Ver.compareOpen, compare_double]
  exact then_of_tupOrder rfl isOrder isTail
 | word letters => simp [tupOrder?, order?] at isOrder

lemma compareOpen_word {own : String} (isLevel : own ∈ releaseLevels) (known : ofNode? node = some entry)
  (isOrder : tupOrder? byRest (.word own.toList :: rest) (entry :: others) = some order)
  (isTail : tupOrder? byRest rest others = some order -> tail = order) :
  Ver.compareOpen compareUnits (some own) (node.singleStr?.map Text.toString) tail = order := by
 cases entry with
 | num val => simp [tupOrder?, order?] at isOrder
 | word letters =>
  obtain ⟨text, isText, rfl⟩ := Option.map_eq_some_iff.mp (ofNode?_word known).2.2
  have plain : ∀ level ∈ releaseLevels, ∀ letter ∈ level.toList, letter.toNat < 128 := by simp [releaseLevels]
  rw [isText, Option.map_some, Ver.compareOpen, compareUnits_eq (plain own isLevel)]
  exact then_of_tupOrder rfl isOrder isTail

lemma compare_of_openOrder {other : Ver} (isOther : verOfTup? items = some other)
  (reads : items.Forall₂ (ofNode? · = some ·) entries) (isOrder : openOrder? ver.entries entries = some order) :
  (doubled ver.toVer).compare other = order := by
 have series {byRest : Nat -> Nat -> Ordering} {major minor : Int} {rest others : List Entry} {tail : Ordering}
   (isOrder : tupOrder? byRest (.num ver.major :: .num ver.minor :: rest) (.num major :: .num minor :: others) =
    some order)
   (isTail : tupOrder? byRest rest others = some order -> tail = order) :
   (compare (2 * ver.major) (2 * major)).then ((compare (2 * ver.minor) (2 * minor)).then tail) = order := by
  rw [compare_double, compare_double]
  exact then_of_tupOrder rfl isOrder fun isOrder => then_of_tupOrder rfl isOrder isTail
 -- the entries are read one after another, as far as the version goes
 cases reads with
 | nil => cases isOther
 | @cons _ major _ _ isMajor reads =>
 cases reads with
 | nil =>
  cases major with
  | word => simp [verOfTup?, (ofNode?_word isMajor).1] at isOther
  | num major =>
   obtain rfl : {major := 2 * major, minor := 0} = other := by
    simpa [verOfTup?, <- Option.bind_assoc, (ofNode?_num isMajor).1] using isOther
   exact @series _ major 0 _ _ _ isOrder Option.some.inj
 | @cons _ minor more entries isMinor reads =>
  cases major with
  | word => simp [verOfTup?, (ofNode?_word isMajor).2.1] at isOther
  | num major =>
  cases minor with
  | word => simp [verOfTup?, (ofNode?_word isMinor).2.1] at isOther
  | num minor =>
  obtain rfl : _ = other := by
   simpa [verOfTup?, <- Option.bind_assoc, (ofNode?_num isMajor).2, (ofNode?_num isMinor).2] using isOther
  refine series isOrder fun isOrder => ?_
  obtain _ | ⟨isMicro, _ | ⟨isLevel, _ | ⟨isSerial, reads⟩⟩⟩ := reads
  · exact Option.some.inj isOrder
  all_goals refine compareOpen_num isMicro isOrder fun isOrder => ?_
  · exact Option.some.inj isOrder
  all_goals refine compareOpen_word ver.isLevel isLevel isOrder fun isOrder => ?_
  · exact Option.some.inj isOrder
  · exact compareOpen_num isSerial isOrder fun isOrder => by simpa [tupOrder?] using isOrder

lemma compareVersions_of_test {op : Op} {test : Ordering -> Bool} {own other : Ver} (isTest : op.test? = some test)
  (known : compareVersions? op own other = some answer) : answer = test (own.compare other) := by
 cases op <;> cases isTest <;> cases known <;>
  simp only [Ver.isLessThan, Ver.isAtLeast, Ver.isAtMost, Ver.isEqualTo, Ver.isGreaterThan] <;>
  cases own.compare other <;> rfl

lemma valWithin_of_truth {cond : Node} {truth countsNone : Bool} {fuel : Nat} (isFull : facts.ver = ver.toVer)
  (holds : Truth facts.sysAliases (openOrder? ver.entries) cond truth)
  (known : valWithin facts fuel countsNone cond = some answer) : answer = truth := by
 induction fuel generalizing cond truth answer countsNone with
 | zero => cases known
 | succ fuel inner =>
  rw [valWithin] at known
  cases holds with
  | comparison isComparison isVer isTup isTest reads isOrder =>
   rw [isComparison] at known
   dsimp only at known
   split at known
   · cases isTest
   · cases isTest
   · rw [comparison?, isTup, isVer, isFull] at known
     obtain ⟨other, isOther, known⟩ := Option.bind_eq_some_iff.mp known
     rw [compareVersions_of_test isTest known, compare_of_openOrder isOther reads isOrder]
  | not isNot holds =>
   rw [isNot] at known
   obtain ⟨inside, isInside, rfl⟩ := Option.map_eq_some_iff.mp known
   rw [inner holds isInside]
  | @join _ _ _ _ op _ _ _ _ isBinary isJoin lhs rhs =>
   rw [isBinary] at known
   cases op <;> cases isJoin
   all_goals
    obtain ⟨first, isFirst, known⟩ := Option.bind_eq_some_iff.mp known
    obtain ⟨second, isSecond, known⟩ := Option.bind_eq_some_iff.mp known
    rw [<- inner lhs isFirst, <- inner rhs isSecond, <- Option.some.inj known]

end StaticCond

/-- A condition on the version is answered, if at all, by its truth in the order of beginnings. -/
theorem val?_eq_truth {facts : StaticFacts} {ver : FullVer} {cond : Node} {truth answer : Bool}
  (isFull : facts.ver = ver.toVer) (holds : Truth facts.sysAliases (openOrder? ver.entries) cond truth)
  (known : facts.val? cond = some answer) : answer = truth :=
 StaticCond.valWithin_of_truth isFull holds known

def Node.bare (kind : NodeKind Node) : Node := ⟨0, ⟨0, 0⟩, kind⟩

/-- The comparison of the version with a tuple of numbers. -/
def verTest (op : Op) (numbers : List Nat) : Node :=
 let name (val : String) : Node := .bare (.name val default)
 .bare (.binary (.bare (.memAccess (name "sys") (name "version_info"))) default op
  (.bare (.tup (numbers.map fun val => .bare (.number (.plain val) false)) true)) false)

lemma verTest_truth {order? : List Entry -> Option Ordering} {op : Op} {numbers : List Nat} {test : Ordering -> Bool}
  {order : Ordering} (isTest : op.test? = some test)
  (isOrder : order? (numbers.map fun val : Nat => .num val) = some order) :
  Truth ["sys"] order? (verTest op numbers) (test order) := by
 refine .comparison rfl (by decide) rfl isTest ?_ isOrder
 simp [ofNode?, Node.bare]

def FullVer.sample : FullVer := ⟨3, 13, 2, 0, "final", by decide⟩
def StaticFacts.sample : StaticFacts := {ver := FullVer.sample.toVer}

theorem val?_eq_truth_sample : StaticFacts.sample.val? (verTest .greaterThan [3, 13, 1]) = some true ∧
  ∀ answer, StaticFacts.sample.val? (verTest .greaterThan [3, 13, 1]) = some answer -> answer = true := by
 have holds : Truth ["sys"] (openOrder? FullVer.sample.entries) (verTest .greaterThan [3, 13, 1])
   (Ordering.isGT .gt) := verTest_truth rfl rfl
 exact ⟨by decide +kernel, fun _ known => @val?_eq_truth .sample .sample _ _ _ rfl holds known⟩

/-- The version is equal to its own beginning, which is less in the order of tuples. -/
theorem val?_not_truth : ¬ ∀ (facts : StaticFacts) (ver : FullVer) (cond : Node) (truth answer : Bool),
  facts.ver = ver.toVer -> Truth facts.sysAliases (tupOrder? compare ver.entries) cond truth ->
  facts.val? cond = some answer -> answer = truth := by
 intro claim
 have answered : StaticFacts.sample.val? (verTest .equals [3, 13]) = some true := by decide +kernel
 cases claim _ FullVer.sample _ _ _ rfl (verTest_truth rfl rfl) answered

end TypeChecker
