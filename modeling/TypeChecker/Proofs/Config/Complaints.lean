import TypeChecker.Config.Rules
import TypeChecker.Proofs.Token.RuleLists

/-! Comments that set rules. What is reported about one lies in it and covers the trimmed text that the report is about. -/

namespace TypeChecker.Directives
variable {text : Text} {outer : Span}
/-- What a message about a comment with some content is about: the comment, or the rule or the value of an operand. -/
inductive About (body : Text) : String -> Text -> Prop
 | cmt : About body misplaced body.trim
 | operand {operand rule val msg inVal} : operand ∈ operands body.trim ->
   rule = (ruleIn operand.trim).trim -> val = (valIn operand.trim).trim -> judge rule val = .error (msg, inVal) ->
   About body msg (if inVal && !val.isEmpty then val else rule)

/-- A complaint lies in one of some comments and is about what the text holds there. -/
def Fits (text : Text) (cmts : List Cmt) (complaint : CmtComplaint) : Prop :=
 ∃ cmt ∈ cmts, cmt.span.start <= complaint.span.start ∧ complaint.span.stop <= cmt.span.stop ∧
  About cmt.value complaint.msg (text.slice complaint.span.start complaint.span.stop)

def State.Fit (state : State) (text : Text) (cmts : List Cmt) : Prop :=
 ∀ complaint ∈ state.complaints, Fits text cmts complaint

lemma foldlM_some {α : Type} {holds : State -> Prop} {step : State -> α -> Option State} {items : List α}
  (keeps : ∀ item ∈ items, ∀ state, holds state -> ∃ next, step state item = some next ∧ holds next) {state : State}
  (start : holds state) : ∃ next, items.foldlM step state = some next ∧ holds next := by
 induction items generalizing state with
 | nil => exact ⟨state, rfl, start⟩
 | cons item items induction =>
  obtain ⟨next, eq, held⟩ := keeps item (.head _) state start
  rw [List.foldlM_cons, eq]
  exact induction (fun item mem => keeps item (.tail _ mem)) held

variable {cmts : List Cmt} {cmt : Cmt} {state : State} {part : Part} (fit : state.Fit text cmts) (mem : cmt ∈ cmts)
include fit mem
lemma State.Fit.complain (within : part.In text cmt.span) {msg : String}
  (about : About cmt.value msg part.text) : (state.complain msg part.span).Fit text cmts := by
 have new : Fits text cmts ⟨msg, part.span⟩ := ⟨cmt, mem, within.first, within.last, within.slice.symm ▸ about⟩
 simpa [State.complain, State.Fit, or_imp, forall_and] using ⟨fit, new⟩

/-- Reading an operand of a comment succeeds, and what it adds fits. -/
lemma State.Fit.readOperand (within : part.In text cmt.span) (listed : part.text ∈ operands cmt.value.trim) :
  ∃ next, readOperand? state part = some next ∧ next.Fit text cmts := by
 obtain ⟨⟨whole, span⟩, trim, rfl, inside⟩ := part.trim?_some within.fits
 have within := inside within
 obtain ⟨rule, ruleTrim, isRule, ruleThere⟩ :=
  Part.trim?_some ⟨ruleIn part.text.trim, span.start, (ruleIn part.text.trim).size⟩ rfl
 obtain ⟨val, valTrim, isVal, valThere⟩ := Part.trim?_some
  ⟨valIn part.text.trim, span.start + ((ruleIn part.text.trim).size + 1), (valIn part.text.trim).size⟩ rfl
 simp only [readOperand?, trim, ruleTrim, valTrim, Option.bind_eq_bind, Option.bind_some]
 split
 · exact ⟨state, rfl, fit⟩
 refine ⟨_, rfl, ?_⟩
 split
 · exact fit
 next msg inVal wrong =>
  refine fit.complain mem ?_ (by rw [apply_ite Part.text]; exact .operand listed isRule isVal wrong)
  split
  · next isThere =>
    -- Without an equals sign the span of the value starts behind the operand, but then there is no value.
    refine valThere (within.piece (Nat.le_of_not_lt fun (past : part.text.trim.size < _) => ?_)
     (by simp [valIn, Text.slice, List.take_prefix]))
    rw [isVal, valIn, Text.slice, Array.extract_empty_of_size_le_start (by omega)] at isThere
    simp [show Text.trim #[] = #[] by decide +kernel] at isThere
  · exact ruleThere (within.piece (Nat.zero_le _) (by simp [ruleIn, List.takeWhile_prefix]))

/-- Reading a comment succeeds, and what it adds fits. -/
lemma State.Fit.readCmt (within : Part.In ⟨cmt.value, cmt.span⟩ text cmt.span) (lines : LineTable) :
  ∃ next, readCmt? lines state cmt = some next ∧ next.Fit text cmts := by
 obtain ⟨part, trim, isTrimmed, inside⟩ := Part.trim?_some _ within.fits
 have within := inside within
 simp only [readCmt?, trim, Option.bind_eq_bind, Option.bind_some]
 split
 · exact ⟨state, rfl, fit⟩
 next marked =>
  simp only [Text.hasAt, Bool.or_eq_true, not_or, Bool.not_eq_true', Bool.not_eq_false, beq_iff_eq] at marked
  have size := congrArg Array.size marked.1
  have width : (Text.ofString introduction).size = introduction.length := by decide
  rw [width, Text.slice, Array.size_extract] at size
  have rest : Part.In ⟨part.text.slice introduction.length part.text.size, part.span.start + introduction.length, _⟩
    text cmt.span := within.piece (by omega) (by simp [Text.slice, List.take_prefix])
  obtain ⟨pieces, _, texts⟩ := rest.pieces (operands part.text) (by simp [operands, Text.split, Function.comp_def])
  refine foldlM_some (fun piece among state fit => ?_) ?_
  · have listed : piece.text ∈ operands part.text := texts ▸ List.mem_map_of_mem among
    exact fit.readOperand mem (pieces piece among).1 (isTrimmed ▸ listed)
  · have start : (if (lines.posOf cmt.span.start).char <= 1 then state
      else state.complain misplaced part.span).Fit text cmts := by
     split
     · exact fit
     · exact fit.complain mem within (isTrimmed ▸ .cmt)
    unfold setMode
    split
    · exact start
    · exact start

omit fit mem

/-- Reading the comments of a text succeeds. What is reported lies in one of them, and what the text holds there is the
trimmed text that the message is about. -/
theorem ofCmts?_fits {depth : Nat} {cells : Bool} {res : TokenizedText}
  (ok : tokenize? text {depth, cells} = .ok res) (rules : RuleSet) (useStrict : Bool) :
  ∃ hit, rules.ofCmts? useStrict res = some hit ∧
   ∀ complaint ∈ hit.2, Fits text (cmtsOf res.tokens) complaint := by
 have step : ∀ cmt ∈ cmtsOf res.tokens, ∀ state : State, state.Fit text (cmtsOf res.tokens) ->
   ∃ next, readCmt? res.lines state cmt = some next ∧ next.Fit text (cmtsOf res.tokens) := by
  intro cmt mem state fit
  exact fit.readCmt mem (cmt_in ok mem) _
 have start (rules : RuleSet) : State.Fit {rules} text (cmtsOf res.tokens) := by simp [State.Fit]
 obtain ⟨state, read, fit⟩ := foldlM_some step (start _)
 exact ⟨(state.rules, state.complaints), by rw [RuleSet.ofCmts?, read]; rfl, fit⟩

def sample : Text := Text.ofString "1#pyright:x"

theorem ofCmts?_fits_sample : ∃ res, tokenize? sample {depth := 0, cells := false} = .ok res ∧
  (RuleSet.ofCmts (.ofMode .off) false res).2.size = 2 ∧
  ∃ hit, RuleSet.ofCmts? (.ofMode .off) false res = some hit ∧
   ∀ complaint ∈ hit.2, Fits sample (cmtsOf res.tokens) complaint := by
 obtain ⟨res, ok, two⟩ : ∃ res, tokenize? sample {depth := 0, cells := false} = .ok res ∧
  (RuleSet.ofCmts (.ofMode .off) false res).2.size = 2 := exists_ok_of_map (by decide +kernel)
 exact ⟨res, ok, two, ofCmts?_fits ok _ _⟩

/-- The complaint about the place of a comment covers more than an operand. -/
theorem not_ofCmts_operand : ∃ res, tokenize? sample {depth := 0, cells := false} = .ok res ∧
  ∃ complaint ∈ (RuleSet.ofCmts (.ofMode .off) false res).2, ∀ cmt ∈ cmtsOf res.tokens,
   ∀ operand ∈ operands cmt.value.trim, sample.slice complaint.span.start complaint.span.stop ∉
    [operand.trim, (ruleIn operand.trim).trim, (valIn operand.trim).trim] :=
 (exists_ok_of_map (by decide +kernel)).imp fun _ => .imp_right of_decide_eq_true

end TypeChecker.Directives
