import Mathlib
import TypeChecker.Message.Text

/-! Templates: values without dollar signs are put in as they are, a single one also if it looks like a slot. -/

namespace TypeChecker.Message
variable {key : String} {val text rest res : List Char}
lemma expand_eq (bare : '$' ∉ val) : expand text rest res val = val := by
 fun_induction expand text rest res val <;> simp_all

lemma starts_append : starts text (text ++ rest) := by
 induction text <;> simp_all [starts]

section
variable (done : ∀ before, substitute (slot key) val 0 before rest = res) (before : List Char)
include done
lemma substitute_copy (flat : '\x7b' ∉ text) : substitute (slot key) val 0 before (text ++ rest) = text ++ res := by
 induction text generalizing before with
 | nil => exact done before
 | cons first text ih => simp_all [substitute, slot, starts]

lemma substitute_skip : substitute (slot key) val text.length before (text ++ rest) = res := by
 induction text generalizing before with
 | nil => exact done before
 | cons first text ih => exact ih _

lemma substitute_slot (bare : '$' ∉ val) : substitute (slot key) val 0 before (slot key ++ rest) = val ++ res := by
 have hit : starts (slot key) (slot key ++ rest) := starts_append
 have skip := @substitute_skip key val (slot key).tail rest res done
 simp_all [slot, substitute, expand_eq bare]

end

/-- A part of a template: a slot or a text. -/
abbrev Piece := String ⊕ List Char

/-- The text of a part, with the value in a slot if there is one. -/
def fill (parameters : ByName String) : Piece -> List Char
 | .inl name => (parameters.lookup name).elim (slot name) String.toList
 | .inr text => text

/-- Texts are without opening braces, and no other slot is taken for one of the key. -/
def Flat (key : String) : Piece -> Prop
 | .inl name => name = key ∨ '\x7b' ∉ name.toList ∧ ∀ rest, ¬starts (slot key) (slot name ++ rest)
 | .inr text => '\x7b' ∉ text

variable {val : String} {pieces : List Piece}
lemma substitute_fill (bare : '$' ∉ val.toList) (flat : ∀ piece ∈ pieces, Flat key piece) (before : List Char) :
  substitute (slot key) val.toList 0 before (pieces.flatMap (fill [])) = pieces.flatMap (fill [(key, val)]) := by
 induction pieces generalizing before with
 | nil => rfl
 | cons piece pieces ih =>
  obtain ⟨here, others⟩ := List.forall_mem_cons.1 flat
  have done := ih others
  cases piece with
  | inr text => exact substitute_copy done before here
  | inl name =>
   by_cases same : name = key
   · simpa [fill, same] using substitute_slot done before bare
   · obtain ⟨plain, apart⟩ := here.resolve_left same
     have copy := @substitute_copy _ _ (name.toList ++ ['\x7d']) _ _ done
     simp_all [fill, slot, substitute, List.lookup, beq_false_of_ne same]

def put (pair : String × String) (piece : Piece) : Piece := if piece = .inl pair.1 then .inr pair.2.toList else piece

/-- Each slot gets the value of its parameter in whatever order the parameters are, and the texts stay. -/
lemma format_fill {parameters : ByName String} (flat : ∀ pair ∈ parameters,
  (∀ piece ∈ pieces, Flat pair.1 piece) ∧ '$' ∉ pair.2.toList ∧ '\x7b' ∉ pair.2.toList) :
  format (.ofList (pieces.flatMap (fill []))) parameters = .ofList (pieces.flatMap (fill parameters)) := by
 induction parameters generalizing pieces with
 | nil => simp [format]
 | cons pair parameters ih =>
  obtain ⟨⟨apart, bare, opens⟩, others⟩ := List.forall_mem_cons.1 flat
  have step rest piece : fill rest (put pair piece) = fill (pair :: rest) piece := by grind [put, fill, List.lookup]
  have filled := @ih (pieces.map (put pair)) (by grind [put, Flat])
  simpa only [format, String.toList_ofList, List.foldl, substitute_fill bare apart, List.flatMap_map, step] using filled

/-- Every slot of the parameter gets the value, and the texts around the slots stay. -/
theorem format_one {val : String} (bare : '$' ∉ val.toList) {texts : List (List Char)}
  (flat : ∀ between ∈ text :: texts, '\x7b' ∉ between) :
  format (.ofList (text ++ texts.flatMap (slot key ++ ·))) [(key, val)] =
   .ofList (text ++ texts.flatMap (val.toList ++ ·)) := by
 have put := @substitute_fill key val (.inr text :: texts.flatMap ([.inl key, .inr ·])) bare (by grind [Flat]) []
 simp_all [format, fill, List.flatMap_assoc]

theorem format_one_braces : '$' ∉ "\x7bb\x7d".toList ∧
  format (.ofList ([] ++ [['+'], []].flatMap (slot "a" ++ ·))) [("a", "\x7bb\x7d")] = "\x7bb\x7d+\x7bb\x7d" := by
 have bare : '$' ∉ "\x7bb\x7d".toList := by decide +kernel
 exact ⟨bare, (format_one bare (by decide +kernel)).trans (by decide +kernel)⟩

end TypeChecker.Message
