import Mathlib
import TypeChecker.Docstring.Markdown

/-! The blocks of a documentation text: how they are entered and left, and that all lines are read. -/

namespace TypeChecker.Docstring.Conv

def isInner : Block -> Bool
 | .text | .empty | .gone => false
 | _ => true

/-- In a block the text around it is noted once. Besides it only directives can be noted, and only if they hold code. -/
structure Sound (coded : Prop) (block : Block) (noted : List Block) : Prop where
 known : block ≠ .gone
 outer : ∀ other ∈ noted, other = .text ∨ other = .directive ∧ coded
 once : noted.count .text = (isInner block).toNat

variable {coded : Prop} {conv next start : Conv} {block other : Block} {noted : List Block}
namespace Sound
variable (sound : Sound coded block noted)
include sound
lemma turn (known : other ≠ .gone) (same : isInner other = isInner block) : Sound coded other noted :=
 ⟨known, sound.outer, same ▸ sound.once⟩

lemma enter (inner : isInner other) (outer : block = .text ∨ block = .directive ∧ coded) :
  Sound coded other (noted ++ [block]) := by
 obtain ⟨_, held, once⟩ := sound
 exact ⟨by grind [isInner], by grind, by grind [isInner]⟩

lemma leave (inner : isInner block) : ∃ outer rest, noted = outer :: rest ∧ Sound coded outer rest ∧
  (outer = .text ∨ outer = .directive) := by
 obtain ⟨_, held, once⟩ := sound
 cases noted with
 | nil => cases inner ▸ once
 | cons outer rest =>
  have ⟨first, others⟩ := List.forall_mem_cons.1 held
  rcases first with rfl | ⟨rfl, _⟩ <;> exact ⟨_, _, rfl, ⟨nofun, others, by grind [isInner]⟩, by simp⟩

end Sound

/-- How many blocks may be left or entered before a line is read. -/
def rank (conv : Conv) : Nat :=
 match conv.block with
 | .text => 1
 | .empty => if conv.atGap then 0 else 2
 | .lit => if conv.isOutside then 2 else 0
 | .sample | .directiveBody | .list | .table => 2
 | _ => 0

/-- A line is read, or else another block of a lower rank is gone to. -/
structure Goes (coded : Prop) (conv next : Conv) : Prop where
 lines : next.lines = conv.lines
 sound : Sound coded next.block next.noted
 moves : conv.line < next.line ∨ next.line = conv.line ∧ next.block ≠ conv.block ∧ next.rank < conv.rank

def holdsCode (line : Text) := ((directive? line).getD (#[], #[])).1 == .ofString "code-block"

lemma le_headerCells (columns lines : List Text) (count : Nat) : count <= (headerCells columns lines count).2 := by
 fun_induction headerCells columns lines count <;> grind

attribute [local grind] Conv.take write Conv.next Conv.enter Conv.leave enterCode leaveCode rank isInner isOutside cur
 cur? atGap
attribute [local grind .] Goes.mk

lemma step_goes (sound : Sound coded conv.block conv.noted) (coding : holdsCode conv.cur -> coded) :
  Goes coded conv conv.step := by
 have turn (block : Block) (known : block ≠ .gone) := sound.turn known
 have enter (block : Block) (inner : isInner block) := sound.enter inner
 have leave := sound.leave
 fun_cases step conv
 · fun_cases readText conv <;> grind
 · fun_cases readEmpty conv <;> grind
 · fun_cases readFenced conv <;> grind
 · fun_cases readSample conv <;> grind
 · fun_cases readLit conv <;> grind
 · fun_cases readLitLine conv; grind
 · fun_cases readDirective conv <;> grind [holdsCode]
 · fun_cases readDirectiveBody conv <;> grind
 · fun_cases readList conv <;> grind
 · fun_cases readTable conv <;> grind [le_headerCells]
 · grind [sound.known]

lemma Goes.changes (goes : Goes coded conv next) : next.block ≠ conv.block ∨ next.line ≠ conv.line := by
 grind [Goes]

lemma run_ends (fuel : Nat) (sound : Sound True conv.block conv.noted)
  (enough : 3 * (conv.lines.size - conv.line) + conv.rank < fuel) : (run fuel conv).cur? = none := by
 fun_induction run fuel conv
 next => cases enough
 next ended => simpa using ended
 next => grind [(step_goes sound fun _ => ⟨⟩).changes]
 next conv _ _ _ ih =>
  have ⟨lines, sound, moves⟩ := step_goes sound fun _ => ⟨⟩
  have : conv.step.rank <= 2 := by grind
  exact ih sound (by grind)

/-- What is met while there are lines to read. -/
inductive Reached (start : Conv) : Conv -> Prop
 | start : Reached start start
 | step {conv : Conv} (reached : Reached start conv) (more : conv.cur? ≠ none) : Reached start conv.step

lemma Reached.sound (reached : Reached start conv) (sound : Sound coded start.block start.noted)
  (coding : ∀ line ∈ start.lines, holdsCode line -> coded) :
  conv.lines = start.lines ∧ Sound coded conv.block conv.noted := by
 induction reached with
 | start => exact ⟨rfl, sound⟩
 | step _ more ih =>
  have goes := step_goes ih.2 fun code => coding _ (by grind) code
  exact ⟨goes.lines.trans ih.1, goes.sound⟩

/-- All lines are read: a known block is always at hand, and each step reads a line or goes to another block. -/
theorem run_reads_all (lines : Array Text) (page : Page) :
  let start : Conv := {lines, page}
  (run (4 * lines.size + 4) start).cur? = none ∧
   ∀ conv, Reached start conv -> conv.block ≠ .gone ∧ (conv.step.block ≠ conv.block ∨ conv.step.line ≠ conv.line) := by
 intro start
 have sound : Sound True start.block start.noted := ⟨nofun, nofun, rfl⟩
 refine ⟨run_ends _ sound (by grind), fun conv reached => ?_⟩
 have sound := (reached.sound sound fun _ _ _ => ⟨⟩).2
 exact ⟨sound.known, (step_goes sound fun _ => ⟨⟩).changes⟩

/-- Where no directive holds code, each block is entered from the text and left to it. -/
theorem reached_noted (lines : Array Text) (page : Page) (plain : ∀ line ∈ lines, ¬holdsCode line)
  (reached : Reached {lines, page} conv) : conv.noted = if isInner conv.block then [.text] else [] := by
 have ⟨_, outer, once⟩ := (reached.sound ⟨nofun, nofun, rfl⟩ plain).2
 have all : ∀ other ∈ conv.noted, .text = other := by grind
 rw [List.count_eq_length.2 all] at once
 rw [List.eq_replicate_of_mem fun other member => (all other member).symm, once]
 cases isInner conv.block <;> rfl

theorem reached_noted_sample :
  let start : Conv := {lines := #[.ofString ">>> 1"], page := {searches := {}}}
  (∀ line ∈ start.lines, ¬holdsCode line) ∧ Reached start start.step ∧ start.step.noted = [.text] := by
 intro start
 have plain : ∀ line ∈ start.lines, ¬holdsCode line := by decide +kernel
 have reached : Reached start start.step := .step .start nofun
 have inner : isInner start.step.block := by decide +kernel
 exact ⟨plain, reached, by simpa [inner] using reached_noted _ _ plain reached⟩

end TypeChecker.Docstring.Conv
