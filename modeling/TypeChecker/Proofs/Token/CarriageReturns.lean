import TypeChecker.Proofs.Token.LineEnds

/-! The two readings of a text side by side, with line feeds and with a carriage return before each. Their states agree
up to the offsets after every step, so the tokens do. -/

namespace TypeChecker
open Scan Text
variable {text : Text} {kind : TokenKind}
def Span.crlf (text : Text) (span : Span) : Span :=
 ⟨text.moved span.start, text.moved span.stop - text.moved span.start⟩

def Cmt.crlf (text : Text) (cmt : Cmt) : Cmt := {cmt with span := cmt.span.crlf text}

def Token.crlf (text : Text) (token : Token) : Token :=
 ⟨token.span.crlf text, token.kind.crlf, token.cmts.map (·.crlf text)⟩

lemma TokenKind.isNewLine_crlf (kind : TokenKind) : (kind.crlf matches .newLine _) = (kind matches .newLine _) := by
 cases kind with
 | newLine kind => cases kind <;> rfl
 | _ => rfl

namespace Scan

/-- The same state of the reading with carriage returns. The line tables, and what refers to them, are left out. -/
structure Twin (text : Text) (scan twin : Scan) : Prop where
 pos : twin.pos = text.moved scan.pos
 mode : scan.cells = false ∧ twin.cells = false
 depth : twin.depth = scan.depth
 tokens : twin.tokens = scan.tokens.map (Token.crlf text)
 indents : twin.indents = scan.indents
 cmts : twin.cmts = scan.cmts.map (Cmt.crlf text)
 fStr : twin.fStr = scan.fStr
 outers : twin.outers = scan.outers
 failure : twin.failure = scan.failure

namespace Twin
variable {scan twin : Scan}
lemma push {start start' len length' : Nat} {kind' : TokenKind} (alike : scan.Twin text twin)
  (starts : start' = text.moved start) (ends : start' + length' = text.moved (start + len))
  (kinds : kind' = kind.crlf) : (scan.push start len kind).Twin text (twin.push start' length' kind') := by
 subst starts kinds
 refine {alike with tokens := ?_, cmts := by simp [Scan.push]}
 simp only [Scan.push, Array.map_push, Token.crlf, Span.crlf, Span.stop, <- ends, alike.tokens, alike.cmts,
  Nat.add_sub_cancel_left]

lemma pushBare {start start' len length' : Nat} {kind' : TokenKind} (alike : scan.Twin text twin)
  (starts : start' = text.moved start) (ends : start' + length' = text.moved (start + len))
  (kinds : kind' = kind.crlf) : (scan.pushBare start len kind).Twin text (twin.pushBare start' length' kind') := by
 subst starts kinds
 refine {alike with tokens := ?_}
 simp [Scan.pushBare, Token.crlf, Span.crlf, Span.stop, <- ends, alike.tokens]

lemma take {len : Nat} {kind' : TokenKind} (alike : scan.Twin text twin)
  (solid : text.Solid scan.pos (scan.pos + len)) (kinds : kind' = kind.crlf) :
  (scan.take len kind).Twin text (twin.take len kind') := by
 have ends : twin.pos + len = text.moved (scan.pos + len) := by rw [solid.moved, alike.pos]; omega
 exact {alike.push alike.pos ends kinds with pos := ends}

lemma openBracket (plain : kind = kind.crlf) (alike : scan.Twin text twin)
  (solid : text.Solid scan.pos (scan.pos + 1)) : (scan.openBracket kind).Twin text (twin.openBracket kind) :=
 take {alike with depth := congrArg (· + 1) alike.depth} solid plain

lemma closeBracket (plain : kind = kind.crlf) (alike : scan.Twin text twin)
  (solid : text.Solid scan.pos (scan.pos + 1)) : (scan.closeBracket kind).Twin text (twin.closeBracket kind) :=
 take {alike with depth := congrArg (· - 1) alike.depth} solid plain

variable (alike : scan.Twin text twin)
include alike
/-- Adds a token without width at the read position. -/
lemma pushEmpty (plain : kind = kind.crlf) : (scan.push scan.pos 0 kind).Twin text (twin.push twin.pos 0 kind) :=
 alike.push alike.pos alike.pos plain

lemma pass {stop stop' : Nat} (stops : stop' = text.moved stop) :
  {scan with pos := stop}.Twin text {twin with pos := stop'} :=
 {alike with pos := stops}

lemma endLine : scan.endLine.Twin text twin.endLine := by
 unfold Scan.endLine
 split <;> split <;> exact {alike with}

lemma endsWithNewLine : twin.endsWithNewLine = scan.endsWithNewLine := by
 unfold Scan.endsWithNewLine
 rw [alike.tokens, Array.back?_map]
 cases scan.tokens.back? with
 | none => rfl
 | some token => exact token.kind.isNewLine_crlf

/-! ## Lines and indents -/

lemma closeIndents_go (amount : Nat) (indents : List IndentInfo) (ambiguous : Bool) :
  (closeIndents.go amount scan indents ambiguous).Twin text (closeIndents.go amount twin indents ambiguous) := by
 induction indents generalizing scan twin ambiguous with
 | nil => exact {alike with indents := rfl}
 | cons info outer ih =>
  simp only [closeIndents.go]
  split
  · split
    · exact {alike.pushEmpty rfl with indents := rfl}
    · exact ih (alike.pushEmpty rfl) false
  · exact {alike with indents := rfl}

lemma openIndent {start start' : Nat} {info : IndentInfo} (prev : Nat) (ambiguous : Bool)
  (starts : start' = text.moved start) (ends : start' + info.tab1 = text.moved (start + info.tab1)) :
  (scan.openIndent start info prev ambiguous).Twin text (twin.openIndent start' info prev ambiguous) :=
 push {alike with indents := congrArg (info :: ·) alike.indents} starts ends rfl

lemma setIndent {start start' : Nat} {info : IndentInfo}
  (starts : start' = text.moved start) (ends : start' + info.tab1 = text.moved (start + info.tab1)) :
  (scan.setIndent start info).Twin text (twin.setIndent start' info) := by
 unfold Scan.setIndent
 rw [alike.depth, alike.indents]
 split
 · exact alike
 · split
   · split
     · exact alike.openIndent 0 false starts ends
     · exact alike
   · dsimp only
     split
     · exact alike.openIndent _ _ starts ends
     · split
       · split
         · exact alike.push starts ends rfl
         · exact alike
       · rw [closeIndents, closeIndents, alike.indents]
         exact alike.closeIndents_go _ _ _

lemma readIndent : (scan.readIndent text).Twin text (twin.readIndent text.crlf) := by
 have skips := skipWhile_crlf text isSpacing rfl rfl scan.pos
 have solid : text.Solid scan.pos _ := (Text.Solid.refl scan.pos).skip (show Plain isSpacing by decide)
 have passed := alike.pass skips
 unfold Scan.readIndent
 simp only [alike.pos, skips, moved_size, moved_le_iff, unit_crlf, solid.slice_crlf,
  test_shown (· == unitOf '#') rfl, test_shown isBreak rfl] at passed ⊢
 split
 · exact passed
 · have width := tab1_le (text.slice scan.pos (text.skipWhile isSpacing scan.pos))
   have size : (text.slice scan.pos (text.skipWhile isSpacing scan.pos)).size <= _ := Nat.le_of_eq Array.size_extract
   have le := solid.le
   refine passed.setIndent rfl ?_
   rw [(solid.shorten (Nat.le_add_right _ _) (by omega)).moved, Nat.add_sub_cancel_left]

lemma newLine (fed : text.Fed) (broken : isBreak (text.unit scan.pos)) :
  (scan.newLine text).Twin text (twin.newLine text.crlf) := by
 have feed := fed.feed broken
 have further := fed.lineBreak broken
 have kinds : lineBreakKind text.crlf (text.moved scan.pos) = .carriageReturnLineFeed ∧
   lineBreakKind text scan.pos = .lineFeed := by
  simp [lineBreakKind, unit_crlf, unit_crlf_succ feed, feed, shown]
 unfold Scan.newLine
 simp only [alike.depth, alike.endsWithNewLine, alike.pos, kinds]
 have pushed : (scan.push _ _ (.newLine .lineFeed)).Twin text _ := alike.push rfl further rfl
 refine readIndent (endLine ?_)
 split
 · exact {pushed with pos := Eq.trans (by rw [Scan.push, alike.pos]) further}
 · exact {alike with pos := Eq.trans (by rw [alike.pos]) further}

/-! ## Comments and words -/

lemma cmt (sharp : text.unit scan.pos = unitOf '#') : (scan.cmt text).Twin text (twin.cmt text.crlf) := by
 have first : text.moved (scan.pos + 1) = twin.pos + 1 := by rw [moved_next (by rw [sharp]; decide), alike.pos]
 have solid : text.Solid (scan.pos + 1) (text.skipWhile (fun unit => !isBreak unit) (scan.pos + 1)) :=
  .skipWhile text (by simp) _
 obtain ⟨_, _, _, eq⟩ := scan.cmt_frame text
 obtain ⟨_, _, _, equal'⟩ := twin.cmt_frame text.crlf
 rw [eq, equal', <- first, skipWhile_crlf _ _ rfl rfl]
 refine {alike with pos := rfl, cmts := ?_}
 have := solid.le
 simp [addCmt, alike.cmts, Cmt.crlf, Span.crlf, Span.stop, solid.slice_crlf, Nat.add_sub_cancel' solid.le]

lemma invalid (fed : text.Fed) (unbroken : text.unit scan.pos ≠ 0x0A) :
  (scan.invalid text).Twin text (twin.invalid text.crlf) := by
 have solid := invalidEnd_solid fed.whole scan.pos
 have len : text.moved (invalidEnd text scan.pos) - text.moved scan.pos = invalidEnd text scan.pos - scan.pos := by
  rw [solid.moved]
  omega
 unfold Scan.invalid
 simp only [alike.pos, invalidEnd_crlf fed.whole, moved_lt_iff, len]
 split
 · exact alike.take (by rwa [Nat.add_sub_cancel' solid.le]) rfl
 · exact {alike with pos := (moved_next unbroken).symm}

lemma continuation (fed : text.Fed) (backslash : text.unit scan.pos = 0x5C) :
  (scan.continuation text).Twin text (twin.continuation text.crlf) := by
 have unbroken : text.unit scan.pos ≠ 0x0A := by rw [backslash]; decide
 unfold Scan.continuation
 simp only [alike.pos, <- moved_next unbroken, unit_crlf, test_shown isBreak rfl]
 split
 next broken =>
  have passed := (alike.pass (fed.lineBreak broken)).endLine
  rw [passed.endsWithNewLine]
  split
  · exact passed.readIndent
  · exact passed
 · exact alike.invalid fed unbroken

lemma word (fed : text.Fed) (unbroken : text.unit scan.pos ≠ 0x0A) :
  (scan.word text).Twin text (twin.word text.crlf) := by
 unfold Scan.word
 rw [alike.pos, alike.fStr, wordAt_crlf]
 cases hit : wordAt text scan.pos scan.fStr.isSome with
 | known kind stop =>
  have ⟨_, _, _, solid⟩ := wordAt_known hit
  have len : text.moved stop - text.moved scan.pos = stop - scan.pos := by rw [solid.moved]; omega
  simp only [Word.crlf, len]
  exact alike.take (by rwa [Nat.add_sub_cancel' solid.le]) rfl
 | malformed digits => exact {alike with pos := text.moved_size, fStr := rfl, failure := rfl}
 | unknown => exact alike.invalid fed unbroken

/-! ## Signs -/

lemma atFieldDepth : twin.atFieldDepth = scan.atFieldDepth := by
 unfold Scan.atFieldDepth
 rw [alike.fStr, alike.depth]

lemma openBrace (solid : text.Solid scan.pos (scan.pos + 1)) : scan.openBrace.Twin text twin.openBrace := by
 have opened : (scan.openBracket .openCurlyBrace).Twin text _ := alike.openBracket rfl solid
 unfold Scan.openBrace
 generalize scan.openBracket .openCurlyBrace = next, twin.openBracket .openCurlyBrace = next' at opened
 simp only [opened.fStr, opened.depth]
 split
 · exact opened
 · split
   · exact {opened with depth := rfl, fStr := rfl}
   · split
     · exact {opened with depth := rfl, fStr := rfl}
     · exact opened

lemma closeBrace (solid : text.Solid scan.pos (scan.pos + 1)) : scan.closeBrace.Twin text twin.closeBrace := by
 unfold Scan.closeBrace
 rw [alike.atFieldDepth]
 split
 · exact closeBracket rfl {alike with fStr := congrArg (Option.map _) alike.fStr} solid
 · exact alike.closeBracket rfl solid

lemma colon (sign : text.unit scan.pos = unitOf ':') : (scan.colon text).Twin text (twin.colon text.crlf) := by
 have first : text.Solid scan.pos (scan.pos + 1) := .unit (show Plain (· == unitOf ':') by decide) (by simp [sign])
 have taken : (scan.take _ .colon).Twin text _ := alike.take first rfl
 have next := moved_next (show text.unit scan.pos ≠ 0x0A by rw [sign]; decide)
 unfold Scan.colon
 simp only [alike.pos, <- next, unit_crlf, test_shown (· == 0x3D) rfl, alike.atFieldDepth]
 split
 next walrus =>
  simp only [Bool.and_eq_true] at walrus
  exact alike.take (first.step (show Plain (· == 0x3D) by decide) walrus.1) rfl
 · split
   · exact {taken with fStr := congrArg (Option.map _) alike.fStr}
   · exact taken

/-! ## Strings -/

lemma strContent (fed : text.Fed) (inside : scan.pos <= text.size) {prefixLen : Nat}
  (starts : prefixLen? text scan.pos = some prefixLen) :
  (scan.strContent text prefixLen).Twin text
   (scan.pos + (prefixLen + (quoteFlags text scan.pos prefixLen).quoteLen))
   (twin.strContent text.crlf prefixLen) := by
 have ⟨letters, quoted⟩ := prefixLen?_solid starts
 have head := quoteFlags_solid letters quoted
 unfold Scan.strContent
 rw [alike.pos, quoteFlags_crlf starts, alike.fStr, <- Nat.add_assoc]
 have moves : text.moved scan.pos + prefixLen + (quoteFlags text scan.pos prefixLen).quoteLen =
   text.moved (scan.pos + prefixLen + (quoteFlags text scan.pos prefixLen).quoteLen) := by
  rw [head.moved]
  omega
 have alike : (scan.contentAt _ (quoteFlags text scan.pos prefixLen)).Twin text
   (twin.contentAt _ (quoteFlags text scan.pos prefixLen)) := ⟨moves, rfl, rfl⟩
 exact scanContent_crlf fed _ _ alike (head.le_size inside)

lemma closedField? (flags : StrFlags) (unclosed : Bool) :
  twin.closedField? flags unclosed = scan.closedField? flags unclosed := by
 unfold Scan.closedField?
 rw [alike.fStr]

lemma string (fed : text.Fed) (inside : scan.pos <= text.size) {prefixLen : Nat}
  (starts : prefixLen? text scan.pos = some prefixLen) :
  (scan.string text prefixLen).Twin text (twin.string text.crlf prefixLen) := by
 have hit := alike.strContent fed inside starts
 have ⟨letters, quoted⟩ := prefixLen?_solid starts
 have solid := quoteFlags_solid letters quoted
 have quotes : quoteFlags text.crlf twin.pos prefixLen = quoteFlags text scan.pos prefixLen := by
  rw [alike.pos, quoteFlags_crlf starts]
 unfold Scan.string
 dsimp only
 rw [quotes]
 generalize quoteFlags text scan.pos prefixLen = flags at *
 rw [Nat.add_assoc] at solid
 have head := solid.moved
 rw [Nat.add_assoc scan.pos, Nat.add_assoc twin.pos, Nat.add_sub_cancel_left, Nat.add_sub_cancel_left]
 split
 · exact { (alike.take solid rfl : (scan.take _ (.fStrStart flags prefixLen)).Twin text _) with
    fStr := rfl, outers := by rw [alike.fStr, alike.outers]}
 · rw [hit.content.flags, alike.closedField?]
   split
   · exact {alike with depth := rfl, fStr := rfl}
   · have := hit.after
     have := hit.before
     refine push {alike with pos := hit.stop} alike.pos ?_ ?_
     · rw [hit.stop, alike.pos]
       exact moved_span (by omega)
     · rw [TokenKind.crlf, <- slice_crlf hit.after hit.inside, hit.content.pos, head, alike.pos,
        Nat.add_sub_cancel_left]

lemma closeFStr : scan.closeFStr.Twin text twin.closeFStr :=
 { alike with
  fStr := by rw [Scan.closeFStr, alike.outers, Scan.closeFStr]
  outers := by rw [Scan.closeFStr, alike.outers, Scan.closeFStr]}

lemma fStrMiddle (fed : text.Fed) (inside : scan.pos <= text.size)
  (fStr : FStrCtx) : (scan.fStrMiddle text fStr).Twin text (twin.fStrMiddle text.crlf fStr) := by
 have starts : (scan.contentAt scan.pos fStr.flags).Twin text (twin.contentAt twin.pos fStr.flags) :=
  ⟨alike.pos, rfl, rfl⟩
 have hit := scanContent_crlf fed fStr.field.isSome (fStr.field.any (·.inFormat)) starts inside
 unfold Scan.fStrMiddle
 dsimp only
 revert hit
 generalize scanContent text _ _ _ = last, scanContent text.crlf _ _ _ = last'
 intro hit
 have after : scan.pos <= last.content.pos := hit.after
 have ends : text.moved last.content.pos + (text.moved last.stop - text.moved last.content.pos) =
   text.moved (last.content.pos + (last.stop - last.content.pos)) := moved_span hit.before
 obtain ⟨next, next', isNext, isNext', passed⟩ : ∃ next next',
   next = {scan with pos := last.stop, lines := last.content.lines, lineStart := last.content.lineStart} ∧
   next' = {twin with pos := last'.stop, lines := last'.content.lines, lineStart := last'.content.lineStart} ∧
   next.Twin text next' := ⟨_, _, rfl, rfl, {alike with pos := hit.stop}⟩
 rw [<- isNext, <- isNext']
 simp only [hit.content.flags, hit.content.pos, hit.stop, alike.pos, moved_lt_iff, slice_crlf after hit.inside]
 have mid : (if scan.pos < last.content.pos || last.content.flags.unclosed then
   next.pushBare scan.pos (last.content.pos - scan.pos)
    (.fStrMiddle last.content.flags (text.slice scan.pos last.content.pos)) else next).Twin text
   (if scan.pos < last.content.pos || last.content.flags.unclosed then
    next'.pushBare (text.moved scan.pos) (text.moved last.content.pos - text.moved scan.pos)
     (.fStrMiddle last.content.flags (text.slice scan.pos last.content.pos).crlf) else next') := by
  split
  · exact passed.pushBare rfl (moved_span after) rfl
  · exact passed
 split
 · exact mid.closeFStr
 · split
   · exact mid
   · exact (mid.pushBare rfl ends rfl).closeFStr

/-! ## Steps -/

lemma char (fed : text.Fed) (inside : scan.pos < text.size) :
  (scan.char text).Twin text (twin.char text.crlf) := by
 unfold Scan.char
 rw [alike.pos, prefixLen?_crlf]
 split
 · exact alike.string fed (Nat.le_of_lt inside) ‹_›
 · have magic : scan.magic? text = none ∧ twin.magic? text.crlf = none := by simp [Scan.magic?, alike.mode]
   have origin : text.moved scan.pos = 0 ↔ scan.pos = 0 := by
    have zero : text.moved scan.pos <= text.moved 0 ↔ scan.pos <= 0 := moved_le_iff
    rw [moved_zero] at zero
    omega
   simp only [unit_crlf, test_shown (· == unitOf '#') rfl, magic, test_shown (· == 0xFEFF) rfl, origin]
   split
   next sharp => exact alike.cmt (eq_of_beq sharp)
   · split
     next mark =>
      have unbroken : text.unit scan.pos ≠ 0x0A := by rw [eq_of_beq mark]; decide
      split
      next first =>
       have next := moved_next unbroken
       rw [first, moved_zero] at next
       exact alike.pass next.symm
      · exact alike.invalid fed unbroken
     · by_cases feed : text.unit scan.pos = 0x0A
       · rw [feed]
         exact alike.newLine fed (by rw [feed]; rfl)
       · rw [shown, if_neg feed]
         split
         case h_14 => exact alike.word fed feed
         all_goals rename_i reads
         case h_1 | h_2 =>
          refine alike.newLine fed (isBreak_iff.mpr ?_)
          simp only [<- UInt16.toNat_inj, toNat_of_char reads (by decide)]
          decide
         case h_3 => exact alike.continuation fed (UInt16.toNat_inj.mp (toNat_of_char reads (by decide)))
         case h_13 => exact alike.colon (UInt16.toNat_inj.mp (toNat_of_char reads (by decide)))
         all_goals have solid := solid_of_char reads (by decide)
         case h_4 | h_6 => exact alike.openBracket rfl solid
         case h_5 | h_7 => exact alike.closeBracket rfl solid
         case h_8 => exact alike.openBrace solid
         case h_9 => exact alike.closeBrace solid
         all_goals exact alike.take solid rfl

lemma literal? : twin.literal? = scan.literal? := by
 unfold Scan.literal?
 rw [alike.fStr]

lemma lead (fed : text.Fed) (inside : scan.pos <= text.size) : (scan.lead text).Twin text (twin.lead text.crlf) := by
 unfold Scan.lead
 rw [alike.literal?]
 split
 · exact alike.fStrMiddle fed inside _
 · exact alike.pass (by rw [alike.pos, skipWhile_crlf _ _ rfl rfl])

lemma step (fed : text.Fed) (sound : scan.Sound text false) : (scan.step text).Twin text (twin.step text.crlf) := by
 have led := alike.lead fed sound.inside
 unfold Scan.step
 simp only [led.pos, moved_size, moved_le_iff]
 split
 · exact led
 · exact led.char fed (by omega)

lemma run (fed : text.Fed) {fuel fuel' : Nat} (sound : scan.Sound text false) (more : fuel <= fuel')
  (ends : text.size <= (scan.run text fuel).pos) : (scan.run text fuel).Twin text (twin.run text.crlf fuel') := by
 induction fuel generalizing fuel' scan twin with
 | zero =>
  have ended : text.crlf.size <= twin.pos := by
   rw [alike.pos, moved_size, moved_le_iff]
   exact ends
  cases fuel' with
  | zero => exact alike
  | succ fuel' => rwa [Scan.run, Scan.run, if_pos ended]
 | succ fuel ih =>
  cases fuel' with
  | zero => omega
  | succ fuel' =>
   rw [Scan.run] at ends
   simp only [Scan.run, alike.pos, moved_size, moved_le_iff]
   split
   · exact alike
   next unread =>
    rw [if_neg unread] at ends
    exact ih (alike.step fed sound) (sound.step (by omega)) (by omega) ends

omit alike in
lemma ended (fed : text.Fed) (depth : Nat) : (ended text depth false).Twin text (Scan.ended text.crlf depth false) := by
 have starts : (start text depth false).Twin text (start text.crlf depth false) :=
  readIndent ⟨text.moved_zero.symm, ⟨rfl, rfl⟩, rfl, by simp, rfl, by simp, rfl, rfl, rfl⟩
 refine starts.run fed (start_sound text depth false) ?_ (Nat.le_of_eq (ended_pos text depth false).symm)
 have := size_crlf text
 omega

lemma closeFStrs : scan.closeFStrs.Twin text twin.closeFStrs := by
 have fold (ctxs : List FStrCtx) {scan twin : Scan} (alike : scan.Twin text twin) :
   (ctxs.foldl (fun scan fStr => scan.pushBare scan.pos 0
    (.fStrEnd {fStr.flags with unclosed := true})) scan).Twin text
   (ctxs.foldl (fun scan fStr => scan.pushBare scan.pos 0
    (.fStrEnd {fStr.flags with unclosed := true})) twin) := by
  induction ctxs generalizing scan twin with
  | nil => exact alike
  | cons ctx ctxs ih => exact ih (alike.pushBare alike.pos alike.pos rfl)
 unfold Scan.closeFStrs
 rw [alike.fStr, alike.outers]
 exact {fold _ alike with fStr := rfl, outers := rfl}

lemma closeTokens : scan.closeTokens.Twin text twin.closeTokens := by
 have closed := alike.closeFStrs
 unfold Scan.closeTokens
 simp only [closed.endsWithNewLine, closed.depth]
 split
 · have ended : (scan.closeFStrs.push _ 0 (.newLine .implied)).Twin text _ := closed.pushEmpty rfl
   exact ended.setIndent ended.pos ended.pos
 · exact closed.setIndent closed.pos closed.pos

lemma finish : (scan.finish text).Twin text (twin.finish text.crlf) := by
 have last : (scan.closeTokens.push scan.pos 0 .eof).Twin text (twin.closeTokens.push twin.pos 0 .eof) :=
  alike.closeTokens.push alike.pos alike.pos rfl
 exact {last.endLine with}

end Twin
end Scan

/-- With a carriage return before each line feed a text is read into the same tokens, or fails alike. -/
theorem tokenize?_crlf (text : Text) (whole : text.Whole) (bare : (0x0D : UInt16) ∉ text) (depth : Nat) :
  (tokenize? text.crlf {depth}).map (·.tokens) =
   (tokenize? text {depth}).map fun res => res.tokens.map (Token.crlf text) := by
 have ended := Twin.ended ⟨whole, bare⟩ depth
 have finished := ended.finish
 rw [tokenize?_eq text.crlf depth false, tokenize?_eq text depth false, ended.failure]
 cases (Scan.ended text depth false).failure with
 | some failure => rfl
 | none => simp only [Except.map, result, finished.tokens]

theorem tokenize?_crlf_suite : let text := Text.ofString "if a:\n  '''b\nc'''\n"
  text.Whole ∧ (0x0D : UInt16) ∉ text ∧ (tokenize? text.crlf {depth := 0}).map (·.tokens) =
   (tokenize? text {depth := 0}).map fun res => res.tokens.map (Token.crlf text) :=
 have whole : (Text.ofString "if a:\n  '''b\nc'''\n").Whole := (Text.Paired.of_lt (by decide)).whole
 have bare : (0x0D : UInt16) ∉ Text.ofString "if a:\n  '''b\nc'''\n" := by simp [Text.ofString, Text.pushChar]
 ⟨whole, bare, tokenize?_crlf _ whole bare 0⟩

/-- A lone surrogate takes the line feed behind it along, and of a pair only the carriage return. -/
theorem tokenize?_crlf_surrogate : let text : Text := #[0x5C, 0xD800, 0x0A, 0x61]
  (0x0D : UInt16) ∉ text ∧ (tokenize? text.crlf {depth := 0}).map (·.tokens) ≠
   (tokenize? text {depth := 0}).map fun res => res.tokens.map (Token.crlf text) := by
 refine ⟨by simp, fun same => ?_⟩
 have sizes := congrArg (fun tokens => tokens.toOption.map Array.size) same
 revert sizes
 decide +kernel

end TypeChecker
