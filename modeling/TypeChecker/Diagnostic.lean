import Std.Data.HashSet
import TypeChecker.Text.Range

/-! Diagnostics: what the checker reports about a place in a source. -/

namespace TypeChecker

inductive DiagCat where
 | error | warning | information | unusedCode | unreachCode | deprecated | taskItem
 deriving DecidableEq

def DiagCat.name : DiagCat -> String
 | .error => "Error" | .warning => "Warning" | .information => "Information"
 | .unusedCode => "UnusedCode" | .unreachCode => "UnreachableCode"
 | .deprecated => "Deprecated" | .taskItem => "TaskItem"

structure Diag where
 cat : DiagCat
 msg : String
 range : LineRange
 rule : String? := none
 actions : Strings := []

/-- A place and the hash of a message: what makes a diagnostic a repetition. -/
abbrev DiagKey := Int × Int × Int × Int × Int

def Diag.key (diag : Diag) :=
 (diag.range.start.line, diag.range.start.char, diag.range.stop.line, diag.range.stop.char, hashString diag.msg)

structure DiagSink where
 diags : Array Diag := #[]
 keys : Std.HashSet DiagKey := {}

namespace DiagSink
variable (sink : DiagSink)
def add (diag : Diag) :=
 if sink.keys.contains diag.key then sink else {diags := sink.diags.push diag, keys := sink.keys.insert diag.key}

def ofCat (cat : DiagCat) := sink.diags.filter (·.cat == cat)

/-- Takes all diagnostics out and forgets what was seen. -/
def fetch : Array Diag × DiagSink := (sink.diags, {})

end DiagSink

/-! Explanations. -/

/-- Lines of explanation with nested explanations below them. -/
inductive Adden where
 | mk (msgs : Array String) (span : Span?) (kids : List Adden)

abbrev Adden? := Option Adden

namespace Adden

def empty : Adden := .mk #[] none []
instance : Inhabited Adden := ⟨empty⟩

def msgs : Adden -> Array String
 | .mk msgs _ _ => msgs

def kids : Adden -> List Adden
 | .mk _ _ kids => kids

def addMsg : Adden -> String -> Adden
 | .mk msgs span kids, msg => .mk (msgs.push msg) span kids

variable (adden : Adden) (msg : String)
def addLines := (msg.splitOn "\n").foldl addMsg adden

def setSpan : Adden -> Span -> Adden
 | .mk msgs _ kids, span => .mk msgs span kids

def addChild : Adden -> Adden -> Adden
 | .mk msgs span kids, child => .mk msgs span (kids ++ [child])

/-- Puts the lines of another explanation, and what is nested below them, on the same level. -/
def append : Adden -> Adden -> Adden
 | .mk msgs span kids, .mk others _ nested => .mk (msgs ++ others) span (kids ++ nested)

def ofMsg : Adden := .mk #[msg] none []

/-- Two blanks that lines are not broken at. -/
def indentation := "\u00a0\u00a0"

/-- The depth at which explanations are cut off in any case. -/
def maxRecursion := 64

mutual

/-- The number of lines down to the cut-off depth. -/
def msgCount : Nat -> Adden -> Nat
 | depth, .mk msgs _ kids => if maxRecursion < depth then 0 else msgs.size + msgCounts (depth + 1) kids

def msgCounts : Nat -> List Adden -> Nat
 | _, [] => 0
 | depth, child :: rest => msgCount depth child + msgCounts depth rest

end

def isEmpty := msgCount 0 adden == 0

mutual

/-- The lines of an explanation, one step deeper than what stands above it. -/
def lines (maxLines : Nat) : Nat -> Int -> Adden -> Strings
 | recursion, maxDepth, .mk msgs _ kids =>
  if maxDepth <= 0 || maxRecursion < recursion then []
  else
   let hasMsgs := 0 < msgs.size
   let below := childLines maxLines (recursion + 1) (if hasMsgs then maxDepth - 1 else maxDepth) kids []
   (msgs.toList ++ below).map fun line => if hasMsgs then indentation ++ line else line

def childLines (maxLines : Nat) : Nat -> Int -> List Adden -> Strings -> Strings
 | _, _, [], hit => hit
 | recursion, maxDepth, child :: rest, hit =>
  let hit := hit ++ lines maxLines recursion maxDepth child
  if maxLines <= hit.length then hit.take maxLines else childLines maxLines recursion maxDepth rest hit

end

def dfltMaxDepth : Int := 5
def dfltMaxLines := 8

/-- The text of an explanation, on lines of its own below a message. -/
def print (maxDepth : Int := dfltMaxDepth) (maxLines : Nat := dfltMaxLines) : String :=
 let hit := lines maxLines 0 maxDepth adden
 let shown := if maxLines < hit.length then hit.take maxLines ++ ["  ..."] else hit
 let text := "\n".intercalate shown
 if text.isEmpty then "" else "\n" ++ text

mutual

def spanBelow : Nat -> Adden -> Span?
 | recursion, .mk _ span kids =>
  if maxRecursion < recursion then none
  else match spansBelow (recursion + 1) kids with
   | [] => span
   | [only] => only
   | _ => some ⟨0, 0⟩

def spansBelow : Nat -> List Adden -> List Span
 | _, [] => []
 | recursion, child :: rest => (spanBelow recursion child).toList ++ spansBelow recursion rest

end

/-- The only place that an explanation names, if it is not empty. -/
def effSpan := (spanBelow 0 adden).filter (·.length != 0)

end Adden
end TypeChecker
