import TypeChecker.Proofs.Token.Outcome

/-! How many steps a run takes. A step that leaves the read position where it is gives up a replacement field, and
the next one closes the f-string around it; so such a step is paid for by the token that opened the f-string. -/

namespace TypeChecker
open Scan
variable {text : Text} {depth : Nat} {cells : Bool} {scan next : Scan}
namespace Scan

/-! ## Open f-strings -/

lemma Adds.starts_le {tokens more : Array Token} (adds : Adds tokens more) :
  fStrStarts tokens <= fStrStarts more := by
 rw [fStrStarts, fStrStarts, <- Array.countP_toList, <- Array.countP_toList]
 exact adds.sublist.countP_le

/-- A token starts each f-string that an advance opens. -/
lemma Advance.fStrs_le (advance : Advance text scan next) :
  next.fStrs.length + fStrStarts scan.tokens <= scan.fStrs.length + fStrStarts next.tokens := by
 have starts := advance.adds.starts_le
 unfold fStrs
 cases advance.turn with
 | kept fStr outer => rw [fStr, outer]; omega
 | begun _ fStr outer _ more => rw [fStr, outer]; simp [fStrs] at *; omega
 | ended _ fStr outer => rw [fStr, outer]; cases scan.outers <;> simp <;> omega
 | braced _ flags outer =>
  have same := congrArg (·.toList.length) flags
  simp only [Option.toList_map, List.length_map] at same
  rw [outer, List.length_append, List.length_append, same]
  omega
 | specified active _ _ changed outer => rw [active, changed, outer]; simp; omega

lemma lt_size_of_quoteAt {flags : StrFlags} {pos : Nat} (closes : QuoteAt text flags pos) : pos < text.size :=
 Text.lt_size_of_unit_ne (by rw [closes.1]; unfold StrFlags.quote; split <;> decide)

lemma contentMove_quote {flags : StrFlags} {pos : Nat} (closes : QuoteAt text flags pos)
  (inField inFormat named : Bool) : contentMove text flags inField inFormat named pos = .quote := by
 have inside := lt_size_of_quoteAt closes
 have quoted : flags.quote ≠ 0x5C ∧ isBreak flags.quote = false := by unfold StrFlags.quote; split <;> decide
 unfold contentMove
 simp only [closes.1, Nat.not_le.mpr inside, quoted.2, beq_eq_false_iff_ne.mpr quoted.1, BEq.rfl]
 cases triple : flags.triplicate with
 | false => simp
 | true => simp [closes.2 triple]

/-- The quote that gives up a replacement field is the end of the f-string. -/
lemma Abandons.quoteAt {fStr : FStrCtx} {field : FieldCtx} (abandons : scan.Abandons text fStr field) :
  QuoteAt text fStr.flags scan.pos := by
 have quoted := (prefixLen?_solid abandons.starts).2
 obtain ⟨_, _, _, same⟩ := closedField?_some abandons.closes
 simp only [sameQuote, quoteFlags, Nat.add_zero, Bool.and_eq_true, beq_iff_eq] at same
 simp only [isQuote, Nat.add_zero, Bool.or_eq_true, beq_iff_eq] at quoted
 have unit : text.unit scan.pos = fStr.flags.quote := by
  unfold StrFlags.quote
  rw [same.2]
  rcases quoted with eq | eq <;> simp [eq]
 refine ⟨unit, fun triple => ?_⟩
 rw [triple] at same
 simpa [unit] using same.1.1.symm

lemma scanContent_quote {body : Content} (closes : QuoteAt text body.flags body.pos)
  (inField inFormat : Bool) :
  scanContent text inField inFormat body = ⟨body, body.pos + body.flags.quoteLen⟩ := by
 have inside := lt_size_of_quoteAt closes
 rw [scanContent, show text.size + 1 - body.pos = text.size - body.pos + 1 by omega, scanContent.go]
 simp only [contentMove_quote closes]

/-- A literal part that starts at the quote closes its f-string. -/
lemma lead_fStrs_of_quote {fStr : FStrCtx} (literal : scan.literal? = some fStr)
  (fresh : fStr.flags.Fresh) (closes : QuoteAt text fStr.flags scan.pos) :
  (scan.lead text).fStrs = scan.outers := by
 simp only [lead, literal, fStrMiddle,
  scanContent_quote (show QuoteAt text (scan.contentAt scan.pos fStr.flags).flags _ from closes)]
 simp only [contentAt, fresh.unclosed, fresh.fieldStart, fresh.fieldEnd, closeFStr, pushBare, fStrs]
 cases scan.outers <;> simp

/-! ## Steps -/

lemma Sound.lead_fStrs_le (sound : scan.Sound text cells) :
  (scan.lead text).fStrs.length <= scan.fStrs.length := by
 rcases (lead_advance sound.inside sound.fresh).2.2.2.2 with ⟨⟨fStr, outer⟩, _⟩ | ⟨_, fStr, outer⟩
 · exact Nat.le_of_eq (by rw [fStrs, fStr, outer, fStrs])
 · rw [fStrs, fStr, outer, fStrs]
   cases scan.outers <;> simp

/-- A reading moves on, or leaves an f-string that is closed next. -/
lemma Reading.climbs (reading : Reading text scan next) (fresh : scan.Fresh) (unread : scan.pos < text.size)
  (sound : next.Sound text cells) : scan.pos <= next.pos ∧
   scan.pos + fStrStarts scan.tokens + (next.lead text).fStrs.length <
    next.pos + fStrStarts next.tokens + scan.fStrs.length := by
 have after := sound.lead_fStrs_le
 cases reading with
 | fwd fwd =>
  have := fwd.lt
  have := fwd.fStrs_le
  omega
 | magic hit =>
  obtain ⟨start, stop, kind, rfl, first, last, _⟩ := magic_frame hit
  simp only [addCmt, fStrs] at *
  omega
 | abandoned abandons =>
  obtain ⟨active, _⟩ := closedField?_some abandons.closes
  refine ⟨Nat.le_refl _, ?_⟩
  rw [lead_fStrs_of_quote]
  · simp [abandonFields, fStrs, active]
  · rfl
  · exact (fresh _ (.inl active) :)
  · exact abandons.quoteAt
 | misread =>
  simp only [fStrs] at *
  omega

/-- The bound on the steps of a run: each step moves on, or closes an f-string. -/
lemma Sound.step_climbs (sound : scan.Sound text cells) (unread : scan.pos < text.size) :
  scan.pos <= (scan.step text).pos ∧
   scan.pos + fStrStarts scan.tokens + ((scan.step text).lead text).fStrs.length <
    (scan.step text).pos + fStrStarts (scan.step text).tokens + (scan.lead text).fStrs.length := by
 have advance := (lead_advance sound.inside sound.fresh).1
 have moved := advance.le
 have counted := advance.adds.starts_le
 have next := sound.step unread
 revert next
 unfold Scan.step
 dsimp only
 split
 · intro next
   have := next.lead_fStrs_le
   omega
 next within =>
  intro next
  have := (char_reads (Nat.lt_of_not_le within)).climbs (sound.lead unread).fresh (by omega) next
  omega

/-! ## Runs -/

/-- From a state on, a text is read in `count` steps. -/
structure Counted (text : Text) (scan : Scan) (count : Nat) : Prop where
 ends : ∀ done, text.size <= (scan.run text done).pos ↔ count <= done
 rests : ∀ done, count <= done -> scan.run text done = scan.run text count
 moves : ∀ done, (scan.run text done).pos <= (scan.run text (done + 1)).pos
 bound : count + scan.pos + fStrStarts scan.tokens <=
  text.size + fStrStarts (scan.run text count).tokens + (scan.lead text).fStrs.length

lemma Counted.read (inside : scan.pos <= text.size) (read : text.size <= scan.pos) : Counted text scan 0 := by
 have stays := run_of_read read
 refine ⟨fun done => ?_, fun done _ => ?_, fun done => ?_, ?_⟩ <;> simp only [stays]
 · simpa using read
 · exact Nat.le_refl _
 · omega

lemma Counted.step {count : Nat} (sound : scan.Sound text cells) (unread : scan.pos < text.size)
  (counted : Counted text (scan.step text) count) : Counted text scan (count + 1) := by
 have goes := run_of_unread unread
 obtain ⟨le, climbs⟩ := sound.step_climbs unread
 have bound := counted.bound
 constructor
 case ends =>
  rintro (_ | done)
  · simpa [run] using unread
  · rw [goes, counted.ends, Nat.add_le_add_iff_right]
 case rests =>
  rintro (_ | done) later
  · omega
  · rw [goes, goes, counted.rests done (by omega)]
 case moves =>
  rintro (_ | done)
  · rw [goes]
    exact le
  · rw [goes, goes]
    exact counted.moves done
 case bound =>
  rw [goes]
  omega

lemma start_fStrs (text : Text) (depth : Nat) (cells : Bool) : (start text depth cells).fStrs = [] := by
 obtain ⟨_, _, _, _, _, _, eq, _⟩ := readIndent_frame {pos := 0, cells, depth : Scan} text
 rw [start, eq]
 rfl

lemma Sound.counted (sound : scan.Sound text cells) (fuel : Nat)
  (ends : text.size <= (scan.run text fuel).pos) : ∃ count, Counted text scan count := by
 induction fuel generalizing scan with
 | zero => exact ⟨0, .read sound.inside ends⟩
 | succ fuel ih =>
  rcases Nat.lt_or_ge scan.pos text.size with unread | read
  · obtain ⟨count, counted⟩ := ih (sound.step unread) (run_of_unread unread fuel ▸ ends)
    exact ⟨count + 1, counted.step sound unread⟩
  · exact ⟨0, .read sound.inside read⟩

end Scan

/-- Reading a text comes to an end: a number of steps is made and no more, the read position never falls, and there are
no more steps than units and tokens that start an f-string. -/
theorem tokenize?_steps (text : Text) (depth : Nat) (cells : Bool) :
  ∃ count, (∀ done, text.size <= ((start text depth cells).run text done).pos ↔ count <= done) ∧
   (∀ done, ((start text depth cells).run text done).pos <= ((start text depth cells).run text (done + 1)).pos) ∧
   ended text depth cells = (start text depth cells).run text count ∧
   count <= text.size + fStrStarts (ended text depth cells).tokens ∧
   ∀ res, tokenize? text {depth := depth, cells := cells} = .ok res ->
    fStrStarts (ended text depth cells).tokens <= fStrStarts res.tokens := by
 have read : text.size <= (ended text depth cells).pos := Nat.le_of_eq (ended_pos text depth cells).symm
 obtain ⟨count, counted⟩ := (start_sound text depth cells).counted _ read
 have whole : ended text depth cells = _ := counted.rests _ ((counted.ends _).mp read)
 refine ⟨count, counted.ends, counted.moves, whole, ?_, fun res ok => ?_⟩
 · have bound := counted.bound
   rw [← whole] at bound
   have := (start_sound text depth cells).lead_fStrs_le
   rw [start_fStrs, List.length_nil] at this
   omega
 · obtain ⟨_, rfl⟩ := tokenize?_ok ok
   obtain ⟨_, _, _, _, _, _, adds⟩ := finish_frame (ended text depth cells) text
   exact adds.starts_le

end TypeChecker
