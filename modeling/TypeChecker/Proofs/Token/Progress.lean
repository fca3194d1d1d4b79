import TypeChecker.Proofs.Token.Steps

/-! The whole run of the scanner. Every step comes nearer to the end of the text or leaves a replacement
field, so the steps that a run is given are enough to reach the end. -/

namespace TypeChecker.Scan
variable {text : Text} {cells : Bool} {scan next : Scan} {depth : Nat}

/-! ## Notebook magics -/

/-- A magic is a comment behind one mark, or two in a cell. -/
lemma magic_frame (hit : scan.magic? text = some next) :
  ∃ start stop kind, next = scan.addCmt text start stop kind ∧ scan.pos < start ∧
   start <= stop ∧ stop <= text.size ∧ (scan.Laid text -> next.Laid text) := by
 unfold magic? at hit
 dsimp only at hit
 split at hit
 next starts =>
  obtain rfl := Option.some.inj hit
  obtain ⟨isCell, cell⟩ : ∃ isCell, (text.unit (scan.pos + 1) == text.unit scan.pos) = isCell := ⟨_, rfl⟩
  obtain ⟨width, _⟩ := magicKind_introLen (text.unit scan.pos) isCell
  simp only [cell, <- width]
  have announced (tokens : Array Token) (first : startsLine tokens scan.pos = scan.atLineStart) :
    remarkAt? text scan.cells tokens scan.pos =
     some (.announced text (magicKind (text.unit scan.pos) isCell) scan.pos (magicEnd text isCell)) := by
   have other : ¬ (text.unit scan.pos == unitOf '#') := by
    simp only [Bool.and_eq_true, Bool.or_eq_true, beq_iff_eq] at starts ⊢
    rcases starts.1.2 with unit | unit <;> rw [unit] <;> decide
   simp only [remarkAt?, if_neg other, first, if_pos starts, cell]
  obtain ⟨remark, _⟩ := remark_of_remarkAt? (announced #[] (Bool.and_eq_true_iff.mp starts).2.symm)
  have bounds := magicEnd_bounds isCell (Nat.le_trans (Nat.le_add_right _ _) remark.inside)
  refine ⟨_, _, _, rfl, by split at width <;> omega, bounds.1, bounds.2.1, fun laid => ?_⟩
  have laid := Cover.cmt laid (announced _ (startsLine_eq laid))
  rwa [show (Cmt.announced _ _ _ _).span.stop = _ from Nat.add_sub_cancel' bounds.1] at laid
 · contradiction

/-! ## Sound states -/

/-- What holds of every state of a run. -/
structure Sound (text : Text) (cells : Bool) (scan : Scan) : Prop where
 inside : scan.pos <= text.size
 fresh : scan.Fresh
 mode : scan.cells = cells
 laid : scan.failure = none -> scan.Laid text
 nested : scan.Nested text
 failed : scan.failure ≠ none -> scan.pos = text.size

lemma Advance.sound (advance : Advance text scan next) (sound : scan.Sound text cells)
  (going : scan.failure = none) : next.Sound text cells :=
 have laid := advance.laid (sound.laid going)
 ⟨laid.inside, advance.fresh sound.fresh, advance.cells.trans sound.mode, fun _ => laid,
  advance.nested sound.nested, fun failed => absurd (advance.failure.trans going) failed⟩

lemma Sound.going (sound : scan.Sound text cells) (unread : scan.pos < text.size) : scan.failure = none := by
 cases failure : scan.failure with
 | none => rfl
 | some _ => exact absurd (sound.failed (by simp [failure])) (Nat.ne_of_lt unread)

lemma closedField?_some {flags : StrFlags} {unclosed : Bool} {fStr : FStrCtx}
  {field : FieldCtx} (closed : scan.closedField? flags unclosed = some (fStr, field)) :
  scan.fStr = some fStr ∧ fStr.field = some field ∧ unclosed ∧ sameQuote fStr.flags flags := by
 unfold closedField? at closed
 repeat' split at closed
 all_goals simp_all

lemma Reading.sound (reading : Reading text scan next) (sound : scan.Sound text cells)
  (unread : scan.pos < text.size) : next.Sound text cells := by
 have going := sound.going unread
 cases reading with
 | fwd fwd => exact fwd.toAdvance.sound sound going
 | magic hit =>
  obtain ⟨start, stop, kind, rfl, _, _, inside, keeps⟩ := magic_frame hit
  exact ⟨inside, sound.fresh, sound.mode, fun _ => keeps (sound.laid going), sound.nested,
   fun failed => absurd going failed⟩
 | abandoned abandons =>
  refine ⟨sound.inside, fun hit mem => ?_, sound.mode, sound.laid, sound.nested, sound.failed⟩
  rcases mem with eq | mem
  · have fresh := sound.fresh _ (.inl (closedField?_some abandons.closes).1)
    rwa [<- Option.some.inj eq]
  · exact sound.fresh hit (.inr mem)
 | misread malformed =>
  exact ⟨Nat.le_refl _, sound.fresh, sound.mode, fun failed => by simp at failed, sound.nested, fun _ => rfl⟩

lemma Sound.lead (sound : scan.Sound text cells) (unread : scan.pos < text.size) :
  (scan.lead text).Sound text cells :=
 (lead_advance sound.inside sound.fresh).1.sound sound (sound.going unread)

lemma Sound.step (sound : scan.Sound text cells) (unread : scan.pos < text.size) :
  (scan.step text).Sound text cells := by
 have lead := sound.lead unread
 unfold Scan.step
 dsimp only
 split
 · exact lead
 next within => exact (char_reads (by omega)).sound lead (by omega)

/-! ## Termination -/

/-- Whether a replacement field is open. -/
def inField (scan : Scan) : Bool := scan.fStr.any (·.field.isSome)

/-- A bound on the steps that remain: two for each unit, and one to leave a field. -/
def rank (scan : Scan) (text : Text) : Nat := 2 * (text.size - scan.pos) + scan.inField.toNat

lemma step_rank (sound : scan.Sound text cells) (unread : scan.pos < text.size) :
  text.size <= (scan.step text).pos ∨ (scan.step text).rank text < scan.rank text := by
 have ⟨advance, _, leaves, _⟩ := lead_advance sound.inside sound.fresh
 have le := advance.le
 unfold step
 dsimp only
 split
 next ended => exact .inl ended
 next within =>
  have flag (scan : Scan) : scan.inField.toNat <= 1 := Bool.toNat_le _
  have reading := char_reads (Nat.lt_of_not_le within)
  revert reading
  generalize (scan.lead text).char text = next
  intro reading
  have := flag next
  cases reading with
  | fwd fwd =>
   have := fwd.lt
   simp only [rank]
   omega
  | magic hit =>
   obtain ⟨start, stop, kind, rfl, first, last, _⟩ := magic_frame hit
   simp only [rank, addCmt] at *
   omega
  | abandoned abandons =>
   -- The quote closes the field that the step began in.
   have ⟨active, open_, _⟩ := closedField?_some abandons.closes
   have quoted := (prefixLen?_solid abandons.starts).2
   rcases Nat.eq_or_lt_of_le le with eq | less
   · have bare : scan.literal? = none := by
      rw [<- eq] at quoted
      exact Option.not_isSome_iff_eq_none.mp fun literal => by
       have := leaves literal quoted
       omega
     have same : (scan.lead text).fStr = scan.fStr := by rw [lead_of_literal?_eq_none bare]
     simp [rank, abandonFields, inField, <- same, active, open_]
     omega
   · simp [rank, abandonFields, inField]
     omega
  | misread => exact .inl Nat.le.refl

lemma run_of_read (read : text.size <= scan.pos) (fuel : Nat) : scan.run text fuel = scan := by
 cases fuel with
 | zero => rfl
 | succ fuel => rw [run, if_pos read]

lemma run_of_unread (unread : scan.pos < text.size) (fuel : Nat) :
  scan.run text (fuel + 1) = (scan.step text).run text fuel := by
 rw [run, if_neg (by omega)]

/-- The steps that a run is given are enough. -/
lemma run_ends (fuel : Nat) (sound : scan.Sound text cells) (enough : scan.rank text < fuel) :
  text.size <= (scan.run text fuel).pos := by
 induction fuel generalizing scan with
 | zero => omega
 | succ fuel ih =>
  rcases Nat.lt_or_ge scan.pos text.size with unread | read
  · rw [run_of_unread unread]
    rcases step_rank sound unread with ended | less
    · rwa [run_of_read ended]
    · exact ih (sound.step unread) (by omega)
  · rwa [run_of_read read]

/-! ## The beginning and the end -/

/-- The state in which the text is begun. -/
def start (text : Text) (depth : Nat) (cells : Bool) : Scan := {pos := 0, cells, depth : Scan}.readIndent text

/-- The state in which the text has been read. -/
def ended (text : Text) (depth : Nat) (cells : Bool) : Scan :=
 (start text depth cells).run text (2 * text.size + 2)

lemma start_sound (text : Text) (depth : Nat) (cells : Bool) :
  (start text depth cells).Sound text cells := by
 obtain ⟨tokens, cmts, _, _, _, _, eq, keeps, _⟩ := readIndent_frame {pos := 0, cells, depth : Scan} text
 have laid := keeps ⟨Nat.zero_le _, by simp, by simp,
  ⟨by simp [Held], by simp [Held], by simp [cmtsOf], by simp, by simp, by simp, by simp, by simp⟩, by simp, by simp⟩
 have nested := readIndent_nested {pos := 0, cells, depth : Scan} text (.empty text) rfl
 rw [eq] at nested
 rw [start, eq]
 exact ⟨laid.inside, by simp [Fresh], rfl, fun _ => laid, nested, by simp⟩

/-- The states of a run between its steps. -/
inductive Reached (text : Text) (depth : Nat) (cells : Bool) : Scan -> Prop where
 | start : Reached text depth cells (start text depth cells)
 | step {scan : Scan} (before : Reached text depth cells scan)
    (unread : scan.pos < text.size) : Reached text depth cells (scan.step text)

/-- The states in which a run reads a character. -/
def Reads (text : Text) (depth : Nat) (cells : Bool) (scan : Scan) : Prop :=
 ∃ before, Reached text depth cells before ∧ before.pos < text.size ∧ before.lead text = scan ∧ scan.pos < text.size

lemma Reached.sound (reached : Reached text depth cells scan) : scan.Sound text cells := by
 induction reached with
 | start => exact start_sound text depth cells
 | step _ unread ih => exact ih.step unread

lemma ended_reached (text : Text) (depth : Nat) (cells : Bool) :
  Reached text depth cells (ended text depth cells) := by
 have runs (fuel : Nat) {scan : Scan} (reached : Reached text depth cells scan) :
   Reached text depth cells (scan.run text fuel) := by
  induction fuel generalizing scan with
  | zero => exact reached
  | succ fuel ih =>
   rw [run]
   split
   · exact reached
   · exact ih (reached.step (by omega))
 exact runs _ .start

lemma ended_pos (text : Text) (depth : Nat) (cells : Bool) : (ended text depth cells).pos = text.size := by
 refine Nat.le_antisymm (ended_reached text depth cells).sound.inside
  (run_ends _ (start_sound text depth cells) ?_)
 have := Bool.toNat_le (start text depth cells).inField
 simp only [rank]
 omega

/-- Every state of a run goes on to the end. -/
lemma Reached.ends (reached : Reached text depth cells scan) :
  ∃ fuel, ended text depth cells = scan.run text fuel := by
 induction reached with
 | start => exact ⟨_, rfl⟩
 | step _ unread ih =>
  obtain ⟨fuel, ends⟩ := ih
  have last := ended_pos text depth cells
  cases fuel with
  | zero =>
   rw [ends, run] at last
   omega
  | succ fuel => exact ⟨fuel, by rw [ends, run_of_unread unread]⟩

lemma Reads.reaches (reads : Reads text depth cells scan) : Reached text depth cells (scan.char text) := by
 obtain ⟨before, reached, unread, rfl, inside⟩ := reads
 have next := reached.step unread
 rwa [step, if_neg (by omega)] at next

private theorem closeFStrs_frame (scan : Scan) (text : Text) :
  ∃ tokens, scan.closeFStrs = {scan with tokens := tokens, fStr := none, outers := []} ∧
   (scan.Laid text -> Cover text scan.cells tokens scan.cmts scan.pos) ∧
   (scan.Nested text -> Nests text tokens scan.indents none) ∧ Adds scan.tokens tokens := by
 have fold (ctxs : List FStrCtx) (scan : Scan) : ∃ tokens,
   ctxs.foldl (fun scan fStr => scan.pushBare scan.pos 0
    (.fStrEnd {fStr.flags with unclosed := true})) scan = {scan with tokens := tokens} ∧
   (scan.Laid text -> Cover text scan.cells tokens scan.cmts scan.pos) ∧
   (scan.Nested text -> Nests text tokens scan.indents none) ∧ Adds scan.tokens tokens := by
  induction ctxs generalizing scan with
  | nil => exact ⟨_, rfl, id, id, .refl⟩
  | cons ctx ctxs ih =>
   exact (ih _).imp fun _ hit =>
    ⟨hit.1, fun laid => hit.2.1 (laid.empty _ Array.empty_append), fun nested => hit.2.2.1 (nested.word rfl),
     Adds.refl.push.trans hit.2.2.2⟩
 unfold closeFStrs
 dsimp only
 split
 all_goals
  obtain ⟨tokens, eq, keeps⟩ := fold _ scan
  exact ⟨tokens, by rw [eq], keeps⟩

/-- The end of the text lies at the margin. -/
private theorem setIndent_margin {scan next : Scan} (eq : scan.setIndent scan.pos ⟨0, 0, false, false⟩ = next)
  (ends : text.size <= scan.pos) (nested : scan.Nested text) :
  next.Nested text ∧ (scan.depth = 0 -> next.indents = []) := by
 obtain ⟨closed, least⟩ := setIndent_nested scan scan.pos ⟨0, 0, false, false⟩ nested (if_pos ends)
 rw [eq] at closed least
 exact ⟨closed, fun flat => closed.indents_eq_nil (least flat)⟩

private theorem closeTokens_frame (scan : Scan) (text : Text) :
  ∃ tokens cmts indents count tabs spaces, scan.closeTokens =
    { scan with
     fStr := none, outers := [], tokens, cmts, indents := indents
     indentCount := count, indentTabCount := tabs, indentSpacesTotal := spaces} ∧
   (scan.Laid text -> Cover text scan.cells tokens cmts scan.pos) ∧
   (text.size <= scan.pos -> scan.Nested text ->
    Nests text tokens indents none ∧ (scan.depth = 0 -> indents = [])) ∧ Adds scan.tokens tokens := by
 obtain ⟨tokens, eq, keeps, nests, adds⟩ := scan.closeFStrs_frame text
 have here {pos : Nat} : Blank text pos pos := ⟨Nat.le_refl _, fun _ _ _ => by omega⟩
 unfold closeTokens
 simp only [eq]
 split
 all_goals
  obtain ⟨tokens, cmts, indents, count, tabs, spaces, eq, more, indented⟩ := setIndent_frame _ _ _
  refine ⟨_, _, _, _, _, _, eq, fun laid => indented ?_ here Nat.le.refl, fun ends nested => ?_, .trans ?_ more⟩
 · exact (keeps laid).empty _ Array.append_empty
 · exact setIndent_margin eq ends ((nests nested).word rfl)
 · exact adds.push
 · exact keeps laid
 · exact setIndent_margin eq ends (nests nested)
 · exact adds

/-- The end adds tokens without width, the last line and perhaps an empty one. -/
lemma finish_frame (scan : Scan) (text : Text) :
  ∃ tokens cmts, (scan.finish text).tokens = tokens.push ⟨⟨scan.pos, 0⟩, .eof, cmts⟩ ∧
   (scan.Laid text -> Cover text scan.cells tokens cmts scan.pos) ∧
   (scan.finish text).lines = closeLines text scan.mark.endLine.lines scan.pos ∧
   (scan.finish text).failure = scan.failure ∧ Adds scan.tokens (scan.finish text).tokens := by
 obtain ⟨tokens, cmts, _, _, _, _, eq, keeps, _, adds⟩ := scan.closeTokens_frame text
 have lines := congrArg Content.lines (mark_endLine (scan.closeTokens.push scan.pos 0 .eof))
 obtain ⟨_, ended⟩ := endLine_frame (scan.closeTokens.push scan.pos 0 .eof)
 unfold finish
 refine ⟨tokens, cmts, ?_, keeps, ?_, ?_, ?_⟩
 · rw [ended, eq]
   rfl
 · refine congr (congrArg (closeLines text) ?_) ?_
   · refine lines.trans ?_
     rw [eq]
     rfl
   · rw [ended, eq]
     rfl
 · rw [ended, eq]
   rfl
 · rw [ended, eq]
   exact adds.push

lemma finish_nested (ends : text.size <= scan.pos) (nested : scan.Nested text) :
  ∃ indents, Nests text (scan.finish text).tokens indents none ∧ (scan.depth = 0 -> indents = []) := by
 obtain ⟨tokens, cmts, indents, _, _, _, eq, _, closes, _⟩ := scan.closeTokens_frame text
 obtain ⟨_, ended⟩ := endLine_frame (scan.closeTokens.push scan.pos 0 .eof)
 have ⟨closed, flat⟩ := closes ends nested
 refine ⟨indents, ?_, flat⟩
 unfold finish
 rw [ended, eq]
 exact closed.word rfl

lemma tokenize?_eq (text : Text) (depth : Nat) (cells : Bool) :
  tokenize? text {depth, cells} = match (ended text depth cells).failure with
   | some failure => .error failure
   | none => .ok ((ended text depth cells).finish text).result := by
 have ⟨_, _, _, _, _, kept, _⟩ := finish_frame (ended text depth cells) text
 have size : ¬ (text.size : Int) < 0 := by omega
 rw [<- kept]
 simp only [ended, start]
 split <;> rename_i failure <;> simp [tokenize?, size, failure]

end TypeChecker.Scan
