import TypeChecker.Proofs.Token.Outcome

/-! Parts of a text with their places, and the rule lists of directives that silence diagnostics. -/

namespace TypeChecker
variable {text : Text} {outer : Span}
namespace Part
variable {part : Part}
/-- A part stands in a text where its span says, within another span. -/
structure In (part : Part) (text : Text) (outer : Span) : Prop where
 first : outer.start <= part.span.start
 last : part.span.stop <= outer.stop
 fits : part.span.length = part.text.size
 here : part.text.toList <+: text.toList.drop part.span.start

lemma In.slice (within : part.In text outer) : text.slice part.span.start part.span.stop = part.text := by
 rw [<- Array.toList_inj, List.prefix_iff_eq_take.1 within.here]
 simp [Text.slice, Span.stop, within.fits]

lemma In.piece (within : part.In text outer) {first : Nat} {piece : Text} (inside : first <= part.text.size)
  (here : piece.toList <+: part.text.toList.drop first) : In ⟨piece, part.span.start + first, piece.size⟩ text outer := by
 obtain ⟨least, last, fits, behind, whole⟩ := within
 have less := here.length_le
 simp only [List.length_drop, Array.length_toList, Span.stop] at less last
 refine ⟨Nat.le_add_right_of_le least, by simp only [Span.stop]; omega, rfl, here.trans ⟨behind, ?_⟩⟩
 rw [<- List.drop_drop, <- whole, List.drop_append_of_le_length inside]

/-- A part whose span is as long as its text can be trimmed, and stays where it is. -/
lemma trim?_some (part : Part) (fits : part.span.length = part.text.size) : ∃ trimmed,
  part.trim? = some trimmed ∧ trimmed.text = part.text.trim ∧
   ∀ {text outer}, part.In text outer -> trimmed.In text outer := by
 have start : part.text.trimStart.toList <:+ part.text.toList := by
  simp [Text.trimStart, Text.slice, List.take_of_length_le, List.drop_suffix]
 have stop : part.text.trim.toList <+: part.text.trimStart.toList := by
  rw [Text.trim, Text.trimEnd, <- List.reverse_suffix]
  obtain ⟨units⟩ := part.text.trimStart
  simp [List.dropWhile_suffix]
 rw [List.suffix_iff_eq_drop.1 start] at stop
 refine ⟨⟨part.text.trim, part.span.start + (part.text.size - part.text.trimStart.size), part.text.trim.size⟩, ?_, rfl,
  (·.piece (Nat.sub_le ..) (by simpa using stop))⟩
 have less := start.length_le
 simp only [Array.length_toList] at less
 have none : part.text.size - (part.text.size - part.text.trimStart.size) - part.text.trimStart.size = 0 := by omega
 simp [trim?, fits, none, Text.trim]

/-- The pieces of a part between commas are parts too, one behind the other. -/
lemma In.pieces (list : List Text) {part : Part} (within : part.In text outer)
  (whole : part.text.toList = [unitOf ','].intercalate (list.map (·.toList))) :
  (∀ piece ∈ partsFrom part.span.start list, piece.In text outer ∧ part.span.start <= piece.span.start) ∧
   (partsFrom part.span.start list).Pairwise (·.span.stop < ·.span.start) ∧
    (partsFrom part.span.start list).map (·.text) = list := by
 induction list generalizing part with
 | nil => simp [partsFrom]
 | cons head rest induction =>
  rw [partsFrom, List.forall_mem_cons]
  cases rest with
  | nil => simpa [partsFrom] using within.piece (Nat.zero_le _) (by simp [whole])
  | cons next rest =>
   simp only [List.map_cons, List.intercalate_cons_cons, List.append_assoc] at whole
   have size := congrArg List.length whole
   simp only [List.length_append, Array.length_toList, List.length_singleton] at size
   have others : In ⟨([unitOf ','].intercalate ((next :: rest).map (·.toList))).toArray,
     part.span.start + (head.size + 1), _⟩ text outer :=
    within.piece (by omega) (by rw [whole, <- List.drop_drop, List.drop_left' (by simp)]; exact List.prefix_rfl)
   obtain ⟨inside, apart, texts⟩ := induction others rfl
   refine ⟨⟨⟨within.piece (Nat.zero_le _) (by simp [whole]), Nat.le_refl _⟩, fun piece mem => ?_⟩,
    .cons (fun piece mem => (inside piece mem).2) apart, congrArg _ texts⟩
   exact (inside piece mem).imp_right (Nat.le_trans (Nat.le_add_right ..))

/-- Trimming keeps parts where they are and in their order. -/
lemma trimmed {parts : List Part} (inside : ∀ part ∈ parts, part.In text outer)
  (apart : parts.Pairwise (·.span.stop < ·.span.start)) :
  (∀ part ∈ parts.filterMap trim?, part.In text outer ∧ ∃ whole ∈ parts, whole.span.start <= part.span.start) ∧
   (parts.filterMap trim?).Pairwise (·.span.stop < ·.span.start) ∧
    (parts.filterMap trim?).map (·.text) = parts.map (·.text.trim) := by
 induction parts with
 | nil => simp
 | cons part parts induction =>
  obtain ⟨within, inside⟩ := List.forall_mem_cons.1 inside
  obtain ⟨first, apart⟩ := List.pairwise_cons.1 apart
  obtain ⟨kept, trim, isTrimmed, stays⟩ := part.trim?_some within.fits
  obtain ⟨others, apart, texts⟩ := induction inside apart
  have ⟨least, last, _, _⟩ := @stays text part.span ⟨Nat.le_refl _, Nat.le_refl _, within.fits, within.here⟩
  rw [List.filterMap_cons_some trim]
  refine ⟨List.forall_mem_cons.2 ⟨⟨stays within, part, .head _, least⟩, fun other mem => ?_⟩,
   .cons (fun other mem => ?_) apart, by simp [isTrimmed, texts]⟩
  · exact (others other mem).imp_right fun ⟨whole, mem, least⟩ => ⟨whole, .tail _ mem, least⟩
  · obtain ⟨_, whole, mem, least⟩ := others other mem
    exact Nat.lt_of_le_of_lt last (Nat.lt_of_lt_of_le (first whole mem) least)

end Part

lemma cmt_in {depth : Nat} {cells : Bool} {res : TokenizedText}
  (ok : tokenize? text {depth, cells} = .ok res) {cmt : Cmt} (mem : cmt ∈ cmtsOf res.tokens) :
  Part.In ⟨cmt.value, cmt.span⟩ text cmt.span := by
 have held : ∃ token ∈ res.tokens, cmt ∈ token.cmts := by simpa [cmtsOf] using mem
 have remark := (tokenize?_laid ok).real (.inl held)
 refine ⟨Nat.le_refl _, Nat.le_refl _, ?_, ?_⟩
 · rw [remark.value, Text.slice, Array.size_extract, Nat.min_eq_left remark.inside, Span.stop, Nat.add_sub_cancel_left]
 · simp [remark.value, Text.slice, List.take_prefix]

namespace Directive
variable {value : Text} {word : String} {place : Place} {start stop : Nat}
/-- A rule list stands in brackets at the end of its directive. -/
lemma placeAt?_list {pos : Nat} (hit : placeAt? value word pos = some place)
  (listed : place.list = some (start, stop)) : ∃ bracket, start = bracket + 1 ∧ place.wordStart <= bracket ∧
   value.unit bracket = unitOf '[' ∧ value.skipWhile isRuleListUnit start = stop ∧ value.unit stop = unitOf ']' ∧
   place.stop = stop + 1 := by
 unfold placeAt? at hit
 grind [Text.le_skipWhile]

end Directive
end TypeChecker
