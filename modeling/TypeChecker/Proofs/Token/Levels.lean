import TypeChecker.Proofs.Token.Coverage

/-! The nesting of lines: the levels that tokens open and close, and the indents of the lines they stand for. -/

namespace TypeChecker
open Scan
/-- Where the line of an offset starts. -/
def startOfLine (text : Text) : Nat -> Nat
 | 0 => 0
 | pos + 1 => if isBreak (text.unit pos) then pos + 1 else startOfLine text pos

/-- The width of what stands before an offset in its line; nothing stands in a line at the end of the text. -/
def lineIndent (text : Text) (pos : Nat) : Nat :=
 if text.size <= pos then 0 else (indentOf (text.slice (startOfLine text pos) pos)).tab8

/-- How many levels tokens have opened and closed, and the amounts of those left open, the innermost first. -/
structure Nesting where
 (opened closed : Nat := 0)
 amounts : List Nat := []

def Token.isDedent (token : Token) : Bool := token.kind matches .dedent ..

namespace Nesting

/-- An indent opens a level only if it is deeper than the innermost one. -/
def next (levels : Nesting) (token : Token) : Nesting :=
 match token.kind with
 | .indent amount _ =>
  if levels.amounts.headD 0 < amount then
   {levels with opened := levels.opened + 1, amounts := amount :: levels.amounts}
  else levels
 | .dedent .. => {levels with closed := levels.closed + 1, amounts := levels.amounts.tail}
 | _ => levels

def ofTokens (tokens : List Token) : Nesting := tokens.foldl next {}

/-- Each level that is not closed is open, deeper than the one around it, and not at the margin. -/
structure Balanced (levels : Nesting) : Prop where
 count : levels.closed + levels.amounts.length = levels.opened
 deeper : (levels.amounts ++ [0]).Pairwise (· > ·)

variable {levels : Nesting} {token : Token} {amount : Nat}
lemma ofTokens_concat (tokens : List Token) : ofTokens (tokens ++ [token]) = (ofTokens tokens).next token := by
 simp [ofTokens]

lemma Balanced.le_head (balanced : levels.Balanced) (mem : amount ∈ levels.amounts) :
  amount <= levels.amounts.headD 0 := by
 have deeper := balanced.deeper
 cases hit : levels.amounts with
 | nil => simp [hit] at mem
 | cons head rest =>
  rw [hit, List.cons_append, List.pairwise_cons] at deeper
  rcases List.mem_cons.mp (hit ▸ mem) with rfl | inner
  · exact Nat.le_refl _
  · exact Nat.le_of_lt (deeper.1 amount (List.mem_append_left _ inner))

lemma Balanced.next (balanced : levels.Balanced) (closes : token.isDedent -> levels.amounts ≠ []) :
  (levels.next token).Balanced := by
 have ⟨count, deeper⟩ := balanced
 unfold Nesting.next
 split
 · split
   next amount _ _ less =>
    refine ⟨by simp only [List.length_cons]; omega, List.pairwise_cons.mpr ⟨fun other mem => ?_, deeper⟩⟩
    rcases List.mem_append.mp mem with mem | margin
    · exact Nat.lt_of_le_of_lt (balanced.le_head mem) less
    · rw [List.mem_singleton.mp margin]
      exact Nat.zero_lt_of_lt less
   · exact balanced
 next kind =>
  cases hit : levels.amounts with
  | nil => exact absurd hit (closes (by simp [Token.isDedent, kind]))
  | cons head rest =>
   rw [hit] at count deeper
   exact ⟨by simpa [Nat.add_assoc, Nat.add_comm 1] using count, (List.pairwise_cons.mp deeper).2⟩
 · exact balanced

end Nesting

/-- Tokens that open and close the levels of `indents`. A dedent compares its line with the levels it leaves open, and
another one follows if those are still deeper; at `due` one has yet to come. -/
structure Nests (text : Text) (tokens : Array Token) (indents : List IndentInfo) (due : Option Nat) : Prop where
 amounts : (Nesting.ofTokens tokens.toList).amounts = indents.map (·.tab8)
 balanced : ∀ before, before <+: tokens.toList -> (Nesting.ofTokens before).Balanced
 dedents : ∀ before token after amount exact ambiguous, tokens.toList = before ++ token :: after ->
  token.kind = .dedent amount exact ambiguous ->
  let left := (Nesting.ofTokens (before ++ [token])).amounts.headD 0
  (exact = true ↔ lineIndent text token.start <= left) ∧ (left <= lineIndent text token.start ∨
   after.head?.elim (due = some token.start) fun next => next.isDedent ∧ next.start = token.start)

namespace Nests
variable {text : Text} {tokens : Array Token} {indents rest : List IndentInfo} {due due' : Option Nat} {token : Token}
lemma empty (text : Text) : Nests text #[] [] none where
 amounts := rfl
 balanced := fun before none => by
  rw [List.prefix_nil.mp none]
  exact ⟨rfl, List.pairwise_singleton _ _⟩
 dedents := by simp

section
variable (nested : Nests text tokens indents due)
include nested
lemma deeper : (indents.map IndentInfo.tab8 ++ [0]).Pairwise (· > ·) :=
 nested.amounts ▸ (nested.balanced _ (List.prefix_refl _)).deeper

lemma indents_eq_nil (margin : (indents.map (·.tab8)).headD 0 <= 0) : indents = [] := by
 have deeper := nested.deeper
 cases indents with
 | nil => rfl
 | cons info rest => exact absurd ((List.pairwise_cons.mp deeper).1 0 (by simp)) (Nat.not_lt.mpr margin)

/-- Adds a token, which closes a level if one has to be closed. -/
lemma push
  (amounts : ((Nesting.ofTokens tokens.toList).next token).amounts = rest.map (·.tab8))
  (follows : ∀ start, due = some start -> token.isDedent ∧ token.start = start)
  (closes : ∀ amount exact ambiguous, token.kind = .dedent amount exact ambiguous -> indents ≠ [] ∧
   let left := (rest.map (·.tab8)).headD 0
   (exact ↔ lineIndent text token.start <= left) ∧ (left <= lineIndent text token.start ∨ due' = some token.start)) :
  Nests text (tokens.push token) rest due' where
 amounts := by rw [Array.toList_push, Nesting.ofTokens_concat, amounts]
 balanced := fun before inside => by
  rw [Array.toList_push, List.prefix_concat_iff] at inside
  rcases inside with rfl | inside
  · rw [Nesting.ofTokens_concat]
    refine (nested.balanced _ (List.prefix_refl _)).next fun dedent => ?_
    unfold Token.isDedent at dedent
    split at dedent
    next kind => simpa [nested.amounts] using (closes _ _ _ kind).1
    · contradiction
  · exact nested.balanced before inside
 dedents := fun before hit after amount exact ambiguous parts kind => by
  rw [Array.toList_push] at parts
  rcases List.eq_nil_or_concat after with rfl | ⟨init, last, rfl⟩
  · obtain ⟨rfl, same⟩ := List.append_inj' parts rfl
    obtain rfl : token = hit := by simpa using same
    rw [Nesting.ofTokens_concat, amounts]
    exact (closes amount exact ambiguous kind).2
  · rw [List.concat_eq_append, <- List.cons_append, <- List.append_assoc] at parts
    obtain ⟨earlier, same⟩ := List.append_inj' parts rfl
    obtain rfl : token = last := by simpa using same
    refine (nested.dedents before hit init amount exact ambiguous earlier kind).imp_right (·.imp_right fun goes => ?_)
    cases init with
    | nil => exact follows _ goes
    | cons => exact goes

end

/-- Adds a token that says nothing of levels. -/
lemma word (nested : Nests text tokens indents none) (plain : (token.kind matches .indent .. | .dedent ..) = false) :
  Nests text (tokens.push token) indents none := by
 refine nested.push ?_ nofun fun _ _ _ kind => by simp [kind] at plain
 unfold Nesting.next
 split <;> simp_all [nested.amounts]

/-- Adds an indent, which opens a level if it is deeper than the others. -/
lemma indent (nested : Nests text tokens indents none) (info : IndentInfo) (token : Token) {ambiguous : Bool}
  (kind : token.kind = .indent info.tab8 ambiguous) :
  Nests text (tokens.push token)
   (if (indents.map (·.tab8)).headD 0 < info.tab8 then info :: indents else indents) none := by
 refine nested.push ?_ nofun fun _ _ _ other => by simp [kind] at other
 simp only [Nesting.next, kind, nested.amounts]
 split
 · rfl
 · exact nested.amounts

/-- Adds a dedent, which closes the innermost level. -/
lemma close {info : IndentInfo} (nested : Nests text tokens (info :: rest) due) {exact ambiguous : Bool}
  (kind : token.kind = .dedent amount exact ambiguous) (place : ∀ start, due = some start -> token.start = start)
  (compares : exact ↔ lineIndent text token.start <= (rest.map (·.tab8)).headD 0)
  (goes : (rest.map (·.tab8)).headD 0 <= lineIndent text token.start ∨ due' = some token.start) :
  Nests text (tokens.push token) rest due' := by
 refine nested.push (by simp [Nesting.next, kind, nested.amounts])
  (fun start hit => ⟨by simp [Token.isDedent, kind], place start hit⟩) fun _ _ _ same => ⟨nofun, ?_⟩
 obtain ⟨_, rfl, _⟩ : _ ∧ exact = _ ∧ _ := by simpa [kind] using same
 exact ⟨compares, goes⟩

end Nests

lemma startOfLine_of_blank {text : Text} {start stop : Nat} (blank : Blank text start stop)
  (first : startOfLine text start = start) : startOfLine text stop = start := by
 obtain ⟨len, rfl⟩ := Nat.exists_eq_add_of_le blank.le
 induction len with
 | zero => exact first
 | succ len ih =>
  rw [<- Nat.add_assoc, startOfLine, blank.solid.unbroken _ (by omega) (by omega)]
  exact ih ⟨Nat.le_add_right _ _, fun _ least most => blank.spacing _ least (by omega)⟩

namespace Scan

def Nested (scan : Scan) (text : Text) : Prop := Nests text scan.tokens scan.indents none

variable {text : Text} {scan : Scan}
/-- The dedents for a line close every level that is deeper than the line. -/
private theorem closeIndents_go_nested {info : IndentInfo} {outer : List IndentInfo} {due : Option Nat}
  (ambiguous : Bool) (nested : Nests text scan.tokens (info :: outer) due)
  (less : amount < info.tab8) (line : lineIndent text scan.pos = amount)
  (place : ∀ start, due = some start -> scan.pos = start) :
  let next := closeIndents.go amount scan (info :: outer) ambiguous
  next.Nested text ∧ (next.indents.map (·.tab8)).headD 0 <= amount := by
 induction outer generalizing scan info due ambiguous with
 | nil =>
  simp only [closeIndents.go, if_pos less]
  exact ⟨nested.close rfl place (by simp [Token.start, line]; omega) (.inl (Nat.zero_le _)), Nat.zero_le _⟩
 | cons level outer ih =>
  rw [closeIndents.go, if_pos less]
  dsimp only [List.head?_cons, Option.map_some, Option.getD_some]
  by_cases last : level.tab8 <= amount
  · rw [if_pos (by simpa using last)]
    exact ⟨nested.close rfl place (by simp [Token.start, line, last]; omega) (.inl (line ▸ last)), last⟩
  · rw [if_neg (by simpa using last)]
    refine @ih (scan.push _ _ _) _ (some scan.pos) false
     (nested.close rfl place ?_ (.inr rfl)) (by omega) line fun _ => Option.some.inj
    simp [Token.start, line]
    omega

/-- Setting the indent of a line leaves no level open that is deeper. -/
lemma setIndent_nested (scan : Scan) (start : Nat) (info : IndentInfo) (nested : scan.Nested text)
  (line : lineIndent text scan.pos = info.tab8) :
  (scan.setIndent start info).Nested text ∧
  (scan.depth = 0 -> ((scan.setIndent start info).indents.map (·.tab8)).headD 0 <= info.tab8) := by
 have adds (ambiguous : Bool) := nested.indent info
  ⟨⟨start, info.tab1⟩, .indent info.tab8 ambiguous, scan.cmts⟩ rfl
 have opens (prev : Nat) (ambiguous : Bool) (deeper : (scan.indents.map (·.tab8)).headD 0 < info.tab8) :
   (scan.openIndent start info prev ambiguous).Nested text := by
  have opened := adds ambiguous
  rwa [if_pos deeper] at opened
 unfold setIndent
 split
 · exact ⟨nested, fun flat => by omega⟩
 · split
   next margin =>
    split
    · exact ⟨opens _ _ (by simpa [margin]), fun _ => Nat.le_refl _⟩
    · exact ⟨nested, by simp [margin]⟩
   next level outer hit =>
    dsimp only
    split
    · exact ⟨opens _ _ (by simpa [hit]), fun _ => Nat.le_refl _⟩
    · split
      next same =>
       split
       · have kept := adds true
         rw [if_neg (by simp [hit, same])] at kept
         exact ⟨kept, by simp [push, hit, same]⟩
       · exact ⟨nested, by simp [hit, same]⟩
      · rw [closeIndents, hit]
        have nested : Nests text scan.tokens (level :: outer) none := hit ▸ nested
        have ⟨closed, least⟩ := closeIndents_go_nested (level.mixes info) nested (by omega) line nofun
        exact ⟨closed, fun _ => least⟩

lemma readIndent_nested (scan : Scan) (text : Text) (nested : scan.Nested text) (first : startOfLine text scan.pos = scan.pos) :
  (scan.readIndent text).Nested text := by
 unfold readIndent
 dsimp only
 split
 · exact nested
 next word =>
  simp only [Bool.or_eq_true, decide_eq_true_eq, not_or] at word
  refine (setIndent_nested {scan with pos := text.skipWhile isSpacing scan.pos} _ _ nested ?_).1
  rw [lineIndent, if_neg word.1.1, startOfLine_of_blank (.skipWhile text scan.pos) first]

end Scan
end TypeChecker
