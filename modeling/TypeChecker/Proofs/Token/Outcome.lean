import TypeChecker.Proofs.Token.Progress

/-! What comes of reading a text: the tokens lose nothing of it, and it cannot be read only where the digits
of an integer do not fit its radix. -/

namespace TypeChecker
open Scan
variable {text : Text} {depth : Nat} {cells : Bool} {digits : String} {scan : Scan}
lemma exists_ok_of_map {failure value other : Type} {outcome : Except failure value} {view : value -> other}
  {seen : other} (hit : outcome.toOption.map view = some seen) :
  ∃ result, outcome = .ok result ∧ view result = seen := by
 cases outcome with
 | ok result => exact ⟨result, rfl, Option.some.inj hit⟩
 | error => simp [Except.toOption] at hit

/-! ## Nothing is lost -/

lemma tokenize?_ok {result : TokenizedText}
  (ok : tokenize? text {depth, cells} = .ok result) :
  (ended text depth cells).failure = none ∧ ((ended text depth cells).finish text).result = result := by
 rw [tokenize?_eq] at ok
 split at ok
 · contradiction
 · exact ⟨‹_›, Except.ok.inj ok⟩

lemma tokenize?_laid {result : TokenizedText}
  (ok : tokenize? text {depth, cells} = .ok result) :
  Cover text cells result.tokens #[] text.size := by
 obtain ⟨going, rfl⟩ := tokenize?_ok ok
 have sound := (ended_reached text depth cells).sound
 obtain ⟨tokens, cmts, hit, keeps, _⟩ := finish_frame (ended text depth cells) text
 rw [ended_pos, sound.mode] at keeps
 simp only [result, hit, ended_pos]
 exact (keeps (sound.laid going)).empty .eof Array.append_empty

/-- The tokens of a text lie in it in order and apart from each other, and what stands between them is
layout, a line continuation, or a comment that some token holds. -/
theorem tokenize?_lossless {result : TokenizedText}
  (ok : tokenize? text {depth := depth, cells := cells} = .ok result) :
  result.tokens.toList.Pairwise (fun left right => left.stop <= right.start) ∧
  (∀ token ∈ result.tokens, token.stop <= text.size) ∧
  (∀ token ∈ result.tokens, ∀ cmt ∈ token.cmts, Remark text cells cmt) ∧
  ∀ pos, pos < text.size -> (∃ token ∈ result.tokens, token.start <= pos ∧ pos < token.stop) ∨
   Spare text (fun cmt => ∃ token ∈ result.tokens, cmt ∈ token.cmts) pos := by
 have laid := tokenize?_laid ok
 refine ⟨laid.ordered, laid.behind, fun token mem cmt held => ?_, fun pos inside => ?_⟩
 · exact laid.real (.inl ⟨token, mem, held⟩)
 · refine (laid.covered pos inside).imp_right (·.mono fun cmt held => ?_)
   exact held.resolve_right (by simp)

/-- A notebook magic, an indent, a line continuation and three words. -/
theorem tokenize?_lossless_sum :
  ∃ result, tokenize? (['%', '1', '\n', '\t', '2', '+', '\\', '\n', '3'].map unitOf).toArray
    {depth := 0, cells := true} = .ok result ∧
   result.tokens.toList.Pairwise (fun left right => left.stop <= right.start) ∧
   ∀ token ∈ result.tokens, token.stop <= 9 := by
 obtain ⟨result, hit, _⟩ : ∃ result,
   tokenize? (['%', '1', '\n', '\t', '2', '+', '\\', '\n', '3'].map unitOf).toArray
    {depth := 0, cells := true} = .ok result ∧ result.tokens.size = 8 :=
  exists_ok_of_map (by decide +kernel)
 exact ⟨result, hit, (tokenize?_lossless hit).1, (tokenize?_lossless hit).2.1⟩

/-- The comments of the tokens, read in order, are the comments and magics of the text: in text order and once,
each before the token that holds it. One stands where the text announces it outside of the tokens and of other
comments, and no token but the literal part of an f-string starts where one is announced. -/
theorem tokenize?_comments {result : TokenizedText}
  (ok : tokenize? text {depth := depth, cells := cells} = .ok result) :
  (cmtsOf result.tokens).Pairwise (fun left right => left.span.stop <= right.first) ∧
  (cmtsOf result.tokens).Nodup ∧
  (∀ token ∈ result.tokens, ∀ cmt ∈ token.cmts, cmt.span.stop <= token.start) ∧
  (∀ pos cmt, cmt ∈ cmtsOf result.tokens ∧ cmt.first = pos ↔
   remarkAt? text cells result.tokens pos = some cmt ∧
   (∀ token ∈ result.tokens, ¬ (token.start <= pos ∧ pos < token.stop)) ∧
   ∀ other ∈ cmtsOf result.tokens, ¬ (other.first < pos ∧ pos < other.span.stop)) ∧
  ∀ token ∈ result.tokens, token.start < token.stop -> token.kind.isLiteral = false ->
   remarkAt? text cells result.tokens token.start = none := by
 have laid := tokenize?_laid ok
 have remarked := laid.remarked
 have held {cmt : Cmt} : cmt ∈ cmtsOf result.tokens ↔ Held result.tokens #[] cmt := by
  simp [cmtsOf, Held]
 have wide {cmt : Cmt} (mem : cmt ∈ cmtsOf result.tokens) : cmt.first < cmt.span.stop :=
  (remark_of_remarkAt? (remarked.exact cmt (held.mp mem))).2.2.1
 have ordered : (cmtsOf result.tokens).Pairwise fun left right => left.span.stop <= right.first := by
  simpa using remarked.ordered
 have apart {cmt other : Cmt} (mem : cmt ∈ cmtsOf result.tokens)
   (inside : other ∈ cmtsOf result.tokens) :
   ¬ (other.first < cmt.first ∧ cmt.first < other.span.stop) := by
  have extent := wide mem
  obtain ⟨left, within, rfl⟩ := List.mem_iff_getElem.mp mem
  obtain ⟨right, within', rfl⟩ := List.mem_iff_getElem.mp inside
  have before := List.pairwise_iff_getElem.mp ordered
  rcases Nat.lt_trichotomy left right with less | rfl | greater
  · have := before left right within within' less
    omega
  · omega
  · have := before right left within' within greater
    omega
 refine ⟨ordered, ?_, remarked.earlier, fun pos cmt => ⟨?_, ?_⟩, remarked.words⟩
 · exact ordered.imp_of_mem fun mem _ before eq => by have := wide mem; subst eq; omega
 · rintro ⟨mem, rfl⟩
   have extent := wide mem
   refine ⟨remarked.exact cmt (held.mp mem), fun token inside covers => ?_, fun other => apart mem⟩
   have := remarked.apart token inside cmt (held.mp mem)
   omega
 · rintro ⟨hit, free, outer⟩
   obtain ⟨_, _, _, mark⟩ := remark_of_remarkAt? hit
   have inside : pos < text.size := Text.lt_size_of_unit_ne fun zero => by rw [zero] at mark; contradiction
   rcases laid.covered pos inside with ⟨token, mem, covers⟩ | spare
   · exact absurd covers (free token mem)
   cases spare with
   | spacing holds => simp [isMark_eq_false isSpacing (by decide) holds] at mark
   | lineBreak holds => simp [isMark_eq_false isBreak (by decide) holds] at mark
   | byteOrderMark _ order => rw [order] at mark; contradiction
   | continuation backslash => rw [backslash] at mark; contradiction
   | @cmt other mem first last =>
    have listed := held.mpr mem
    have first : other.first <= pos := first
    have same : other.first = pos := by have := outer other listed; omega
    have exact := remarked.exact other mem
    rw [same, hit] at exact
    obtain rfl := Option.some.inj exact
    exact ⟨listed, same⟩

/-- A cell of a notebook: a magic, a comment, and a comment in a replacement field before an f-string that breaks off. -/
theorem tokenize?_comments_cell :
  let text : Text := (['%', 'm', '\n', '#', '\n', 'f', '"', '\x7b', '#', 'a', '\n', '"', '#'].map unitOf).toArray
  ∃ result, tokenize? text {depth := 0, cells := true} = .ok result ∧
   (cmtsOf result.tokens).map (fun cmt => (cmt.first, cmt.span.stop)) = [(0, 2), (3, 4), (8, 10), (12, 13)] ∧
   (cmtsOf result.tokens).Nodup ∧
   ∀ token ∈ result.tokens, ∀ cmt ∈ token.cmts, cmt.span.stop <= token.start := by
 intro text
 obtain ⟨result, hit, listed⟩ : ∃ result, tokenize? text {depth := 0, cells := true} = .ok result ∧
   (cmtsOf result.tokens).map (fun cmt => (cmt.first, cmt.span.stop)) =
    [(0, 2), (3, 4), (8, 10), (12, 13)] := exists_ok_of_map (by decide +kernel)
 obtain ⟨_, once, before, _⟩ := tokenize?_comments hit
 exact ⟨result, hit, listed, once, before⟩

/-! ## Levels -/

/-- Tokens close only levels that are open, and all of them by the end of a text that ends at depth zero. At all times
the open levels are those of the tokens, each deeper than the one around it. The last dedent for a line says whether
the line meets a level that is left open, or the margin. -/
theorem tokenize?_levels {result : TokenizedText}
  (ok : tokenize? text {depth := depth, cells := cells} = .ok result) :
  (∀ before, before <+: result.tokens.toList -> (Nesting.ofTokens before).closed <= (Nesting.ofTokens before).opened) ∧
  ((ended text depth cells).depth = 0 ->
   (Nesting.ofTokens result.tokens.toList).closed = (Nesting.ofTokens result.tokens.toList).opened) ∧
  (∀ scan, Reached text depth cells scan ->
   (Nesting.ofTokens scan.tokens.toList).amounts = scan.indents.map (·.tab8) ∧
   (scan.indents.map (·.tab8)).Pairwise (· > ·)) ∧
  ∀ before token after amount exact ambiguous, result.tokens.toList = before ++ token :: after ->
   token.kind = .dedent amount exact ambiguous ->
   (∀ next ∈ after.head?, ¬ (next.isDedent = true ∧ next.start = token.start)) ->
   (exact = true ↔ lineIndent text token.start ∈ (Nesting.ofTokens (before ++ [token])).amounts ∨
    lineIndent text token.start = 0) := by
 obtain ⟨_, rfl⟩ := tokenize?_ok ok
 obtain ⟨indents, nested, flat⟩ := finish_nested (Nat.le_of_eq (ended_pos text depth cells).symm)
  (ended_reached text depth cells).sound.nested
 refine ⟨fun before inside => ?_, fun level => ?_, fun scan reached => ?_,
  fun before token after amount exact ambiguous parts kind last => ?_⟩
 · have := (nested.balanced before inside).count
   omega
 · have count := (nested.balanced _ (List.prefix_refl _)).count
   rwa [nested.amounts, flat level] at count
 · have nested := reached.sound.nested
   exact ⟨nested.amounts, (List.pairwise_append.mp nested.deeper).1⟩
 · have balanced := nested.balanced (before ++ [token]) ⟨after, by rw [List.append_assoc]; exact parts.symm⟩
   have ⟨compares, goes⟩ := nested.dedents before token after amount exact ambiguous parts kind
   have least := goes.resolve_right (by cases hit : after.head? <;> simp_all)
   rw [compares]
   constructor
   · intro most
     rw [Nat.le_antisymm most least]
     cases (Nesting.ofTokens (before ++ [token])).amounts <;> simp
   · rintro (mem | margin)
     · exact balanced.le_head mem
     · exact Nat.le_trans (Nat.le_of_eq margin) (Nat.zero_le _)

/-- A line between the levels closes the inner one and meets none. -/
theorem tokenize?_levels_uneven : let text : Text := ([':', '\n', ' ', ' ', ':', '\n', ' ', ':'].map unitOf).toArray
  ∃ result, tokenize? text {depth := 0, cells := false} = .ok result ∧ (ended text 0 false).depth = 0 ∧
   (Nesting.ofTokens result.tokens.toList).closed = (Nesting.ofTokens result.tokens.toList).opened := by
 intro text
 obtain ⟨result, hit, _⟩ : ∃ result, tokenize? text {depth := 0, cells := false} = .ok result ∧
   result.tokens.size = 9 := exists_ok_of_map (by decide +kernel)
 have flat : (ended text 0 false).depth = 0 := by decide +kernel
 exact ⟨result, hit, flat, (tokenize?_levels hit).2.1 flat⟩

/-! ## Digits that do not fit their radix -/

/-- A zero, the letter of a radix, underscores, and then a decimal integer whose first digit is none of the
radix. -/
structure Misfit (text : Text) (pos first stop : Nat) : Prop where
 zero : text.unit pos = unitOf '0'
 underscored : pos + 2 < first
 underscores : ∀ off, pos + 2 <= off -> off < first -> text.unit off = unitOf '_'
 digit : isDigitUnit (text.unit first)
 great : ∃ radix isDigit, radixOf? (text.unit (pos + 1)) = some (radix, isDigit) ∧ isDigit (text.unit first) = false
 ends : text.skipWhile isDecUnit first = stop
 whole : text.unit stop ≠ unitOf '.' ∧ text.unit stop ≠ unitOf 'e' ∧ text.unit stop ≠ unitOf 'E'

/-- The digits of an integer, without its underscores. -/
def digitsOf (text : Text) (start stop : Nat) : String := Text.toString ((text.slice start stop).filter (· != 0x5F))

lemma withImagMark_ne (text : Text) (value : NumVal) (stop : Nat) (digits : String) :
  withImagMark text value stop ≠ .malformed digits := by
 unfold withImagMark
 split <;> simp

lemma fraction_ne (text : Text) (start : Nat) (startsWithDigit : Bool) (digits : String) :
  scanNum.fraction text start startsWithDigit ≠ .malformed digits := by
 unfold scanNum.fraction
 dsimp only
 split
 · exact withImagMark_ne _ _ _ _
 · simp

lemma integer_malformed {start stop : Nat} : scanNum.integer text start stop = .malformed digits ↔ digits =
  digitsOf text start stop ∧ ∃ pos, start <= pos ∧ pos < stop ∧ pos < text.size ∧
  isDecUnit (text.unit pos) = false := by
 have digit (unit : UInt16) : isDecUnit unit = false ↔ (unit != 0x5F) ∧ isDigitUnit unit = false := by
  simp only [isDecUnit, isDigitUnit, bne, Bool.or_eq_false_iff, Bool.not_eq_true', and_comm]
 unfold scanNum.integer digitsOf
 dsimp only
 split
 next all =>
  simp only [withImagMark_ne, false_iff, not_and, not_exists]
  intro _ pos first last inside
  simp only [Array.all_eq_true_iff_forall_mem, Array.mem_filter, Text.mem_slice] at all
  have := all (text.unit pos)
  grind
 next some_ =>
  simp only [NumScan.malformed.injEq, eq_comm, iff_self_and]
  simp only [Array.all_eq_true_iff_forall_mem, Array.mem_filter, Text.mem_slice] at some_
  grind

/-- Digits that go on where the number starts form one. -/
lemma scanDecimal_ne (start : Nat) (digits : String) :
  scanNum.scanDecimal text start start ≠ .malformed digits := by
 have all {test : UInt16 -> Bool} (zero : test 0 = false)
   (decimal : ∀ unit, test unit -> isDecUnit unit) :
   scanNum.integer text start (text.skipWhile test start) ≠ .malformed digits := by
  rw [ne_eq, integer_malformed]
  rintro ⟨_, pos, first, last, _, other⟩
  have holds := ((Text.skipWhile_eq_iff zero).mp rfl).2.2 pos first last
  simp [decimal _ holds] at other
 unfold scanNum.scanDecimal
 dsimp only
 repeat' split
 · exact all (by decide) fun _ => id
 · exact fraction_ne _ _ _ _
 · exact all (by decide) (by simp [isDecUnit])
 · exact fraction_ne _ _ _ _
 · exact fraction_ne _ _ _ _

lemma isNonZeroDigit_eq {unit : UInt16} (nonzero : unit ≠ 0x30) : scanNum.isNonZeroDigit unit = isDigitUnit unit := by
 have differs : unit.toNat ≠ 0x30 := fun eq => nonzero (UInt16.toNat_inj.mp eq)
 simp only [scanNum.isNonZeroDigit, isDigitUnit, UInt16.le_iff_toNat_le]
 congr 1
 exact decide_eq_decide.mpr ⟨fun least => Nat.le_of_succ_le least, fun least => Nat.lt_of_le_of_ne least differs.symm⟩

lemma scanDecimal_malformed {start first : Nat} (nonzero : text.unit first ≠ 0x30) :
  scanNum.scanDecimal text start first = .malformed digits ↔ isDigitUnit (text.unit first) ∧
  scanNum.endsInteger (text.unit (text.skipWhile isDecUnit first)) ∧
  scanNum.integer text start (text.skipWhile isDecUnit first) = .malformed digits := by
 have digit := isNonZeroDigit_eq nonzero
 unfold scanNum.scanDecimal
 simp only [digit, beq_eq_false_iff_ne.mpr nonzero, Bool.false_eq_true, if_false]
 split
 · split <;> simp_all [fraction_ne]
 · simp_all [fraction_ne]

lemma numAt_malformed {pos : Nat} : numAt text pos = .malformed digits ↔ ∃ first stop,
  Misfit text pos first stop ∧ digits = digitsOf text pos stop := by
 have ne_zero {isDigit : UInt16 -> Bool} {unit : UInt16} (has : isDigit 0x30)
   (lacks : isDigit unit = false) : unit ≠ 0x30 := fun eq => by simp [eq, has] at lacks
 constructor
 · intro malformed
   unfold numAt at malformed
   split at malformed
   · unfold scanNum at malformed
     dsimp only at malformed
     split at malformed
     next radix isDigit hit =>
      split at hit
      next zero =>
       have ⟨plain, _, _, _, hasZero, _⟩ := radixOf?_plain hit
       have ⟨_, lacks, all⟩ := (Text.skipWhile_eq_iff plain.1).mp (rfl : text.skipWhile isDigit (pos + 2) = _)
       split at malformed
       next starts =>
        split at malformed
        next underscores =>
         have ⟨digit, ends, integer⟩ := (scanDecimal_malformed (ne_zero hasZero lacks)).mp malformed
         simp only [Array.all_eq_true_iff_forall_mem, Text.mem_slice, beq_iff_eq] at underscores
         refine ⟨_, _, ⟨eq_of_beq zero, Text.lt_skipWhile plain.1 starts, fun off first last => ?_, digit,
          ⟨_, _, hit, lacks⟩, rfl, ?_⟩, (integer_malformed.mp integer).1⟩
         · exact underscores _ ⟨off, first, last, plain.lt_size (all off first last), rfl⟩
         · simpa [scanNum.endsInteger, and_assoc] using ends
        · cases malformed
       · exact absurd malformed (scanDecimal_ne _ _)
      · cases hit
     · exact absurd malformed (scanDecimal_ne _ _)
   · cases malformed
 · rintro ⟨first, stop, misfit, rfl⟩
   obtain ⟨radix, isDigit, hit, lacks⟩ := misfit.great
   have ⟨plain, nonzero, _, notDecimal, hasZero, hasUnderscore⟩ := radixOf?_plain hit
   have underscored := misfit.underscored
   have all (off : Nat) (least : pos + 2 <= off) (last : off < first) : isDigit (text.unit off) := by
    rw [misfit.underscores off least last]
    exact hasUnderscore
   have goes : text.skipWhile isDigit (pos + 2) = first := (Text.skipWhile_eq_iff plain.1).mpr ⟨by omega, lacks, all⟩
   have underscores : (text.slice (pos + 2) first).all (· == 0x5F) := by
    simp only [Array.all_eq_true_iff_forall_mem, Text.mem_slice, beq_iff_eq]
    rintro _ ⟨off, least, last, _, rfl⟩
    exact misfit.underscores off least last
   have further := Text.le_skipWhile text isDecUnit first
   have integer : scanNum.integer text pos (text.skipWhile isDecUnit first) =
     .malformed (digitsOf text pos (text.skipWhile isDecUnit first)) :=
    integer_malformed.mpr ⟨rfl, pos + 1, by omega, by omega, Text.lt_size_of_unit_ne nonzero, notDecimal⟩
   have zero : text.unit pos = 0x30 := misfit.zero
   have decimal : isDecUnit 0x30 := by decide
   rw [<- misfit.ends, numAt, scanNum]
   simp only [zero, decimal, Bool.true_or, BEq.rfl, if_true, hit, all (pos + 2) Nat.le.refl underscored, goes, underscores]
   refine (scanDecimal_malformed (ne_zero hasZero lacks)).mpr ⟨misfit.digit, ?_, integer⟩
   rw [misfit.ends]
   simpa [scanNum.endsInteger, and_assoc] using misfit.whole

/-! ## Texts that cannot be read -/

lemma ne_of_digit {unit : UInt16} (digit : isDigitUnit unit) (other : UInt16) (plain : isDigitUnit other = false) :
  ¬ unit = other := fun eq => by
 simp [<- eq, digit] at plain

lemma char_of_digit (digit : isDigitUnit (text.unit scan.pos)) : scan.char text = scan.word text := by
 have bare : prefixLen? text scan.pos = none := by
  simp [prefixLen?, isQuote, isPrefixPair, isLetterOf, ne_of_digit digit, isDigitUnit, unitOf]
 have unmarked : scan.magic? text = none := by simp [magic?, ne_of_digit digit, isDigitUnit, unitOf]
 simp only [char, bare, unmarked, beq_iff_eq, ne_of_digit digit 0xFEFF (by decide),
  ne_of_digit digit (unitOf '#') (by decide), if_false]
 split
 case h_14 => rfl
 all_goals
  rename_i reads
  rw [<- UInt16.ofNat_toNat (x := text.unit scan.pos), toNat_of_char reads (by decide)] at digit
  exact absurd digit (by decide)

lemma char_misfit {first stop : Nat} (misfit : Misfit text scan.pos first stop) : scan.char text =
  {scan with pos := text.size, failure := some (.badInteger (digitsOf text scan.pos stop))} := by
 have malformed := numAt_malformed.mpr ⟨first, stop, misfit, rfl⟩
 have zero : text.unit scan.pos = 0x30 := misfit.zero
 rw [char_of_digit (by rw [zero]; rfl)]
 simp [word, wordAt, malformed]

lemma ended_misfit {first stop : Nat} (reads : Reads text depth cells scan)
  (misfit : Misfit text scan.pos first stop) :
  (ended text depth cells).failure = some (.badInteger (digitsOf text scan.pos stop)) := by
 obtain ⟨fuel, ends⟩ := reads.reaches.ends
 rw [ends, char_misfit misfit, run_of_read Nat.le.refl]

/-- A run goes on as long as it meets no misfit. -/
lemma Scan.Reached.going (reached : Reached text depth cells scan)
  (fits : ∀ scan first stop, Reads text depth cells scan -> ¬ Misfit text scan.pos first stop) :
  scan.failure = none := by
 induction reached with
 | start =>
  obtain ⟨_, _, _, _, _, _, eq, _⟩ := readIndent_frame {pos := 0, cells, depth : Scan} text
  rw [Scan.start, eq]
 | @step before reached unread ih =>
  have sound := reached.sound
  have lead := (lead_advance sound.inside sound.fresh).1.failure.trans ih
  unfold Scan.step
  dsimp only
  split
  · exact lead
  next within =>
   have reading := char_reads (Nat.lt_of_not_le within)
   revert reading
   generalize (before.lead text).char text = next
   intro reading
   cases reading with
   | fwd fwd => exact fwd.failure.trans lead
   | magic hit =>
    obtain ⟨_, _, _, rfl, _⟩ := magic_frame hit
    exact lead
   | abandoned => exact lead
   | misread malformed =>
    obtain ⟨first, stop, misfit, _⟩ := numAt_malformed.mp malformed
    exact absurd misfit (fits _ first stop ⟨before, reached, unread, rfl, Nat.lt_of_not_le within⟩)

/-- A text cannot be read exactly if the run meets a misfit, and the failure shows its digits. -/
theorem tokenize?_error_iff (text : Text) (depth : Nat) (cells : Bool) (failure : ScanError) :
  tokenize? text {depth := depth, cells := cells} = .error failure ↔
   ∃ scanner first stop, Reads text depth cells scanner ∧ Misfit text scanner.pos first stop ∧
    failure = .badInteger (digitsOf text scanner.pos stop) := by
 rw [tokenize?_eq]
 constructor
 · intro fails
   refine Classical.byContradiction fun fits => ?_
   have going := (ended_reached text depth cells).going fun scanner first stop reads misfit => by
    simp only [ended_misfit reads misfit, Except.error.injEq] at fails
    exact fits ⟨scanner, first, stop, reads, misfit, fails.symm⟩
   simp [going] at fails
 · rintro ⟨scanner, first, stop, reads, misfit, rfl⟩
   simp [ended_misfit reads misfit]

/-- An underscore keeps the radix of its digits from being given up. -/
theorem tokenize?_underscored_binary :
  tokenize? (['0', 'b', '_', '2'].map unitOf).toArray {depth := 0, cells := false} =
   .error (.badInteger "0b2") := by
 have fails : (ended (['0', 'b', '_', '2'].map unitOf).toArray 0 false).failure = some (.badInteger "0b2") := by
  decide +kernel
 rw [tokenize?_eq, fails]

end TypeChecker
