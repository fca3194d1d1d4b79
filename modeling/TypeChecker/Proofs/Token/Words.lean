import TypeChecker.Proofs.Text.Runs

/-! The words of a text and the contents of its strings. No function that finds the end of a word passes over a line
break; the walk over the content of a string records the ends of the lines that it passes. -/

namespace TypeChecker
open Scan
variable {text : Text} {start pos stop : Nat} {length pos : Nat} {text : Text} {flags : StrFlags} {content : Content}

/-! ## Names -/

lemma identRest_solid (text : Text) (pos : Nat) : text.Solid pos (identRest text pos) :=
 Text.skipBy_keeps (text.Solid pos) (.refl pos) fun last solid _ further => by
  split at further
  next single =>
   rw [if_pos single]
   exact solid.step (show Plain isIdentUnit by decide) single
  next alone =>
   split at further
   next pair =>
    have surrogates : isIdentSurrogate (text.unit last) ∧ isLowSurrogate (text.unit (last + 1)) := by
     unfold isIdentPair at pair
     grind
    rw [if_neg alone, if_pos pair]
    exact (solid.step (by decide) surrogates.1).step (by decide) surrogates.2
   · omega

lemma identEnd_solid (text : Text) (pos : Nat) : text.Solid pos (identEnd text pos) := by
 unfold identEnd
 split
 next single => exact (Text.Solid.unit (show Plain isIdentStart by decide) single).append (identRest_solid text _)
 · split
   next alone pair =>
    have surrogates : isIdentSurrogate (text.unit pos) ∧ isLowSurrogate (text.unit (pos + 1)) := by
     unfold isIdentStartPair at pair
     grind
    exact ((Text.Solid.unit (by decide) surrogates.1).step (by decide) surrogates.2).append (identRest_solid text _)
   · exact .refl pos

/-! ## Numbers -/

lemma exponentEnd_solid (text : Text) (pos : Nat) : text.Solid pos (exponentEnd text pos) := by
 have mark : Plain fun unit => unit == unitOf 'e' || unit == unitOf 'E' := by decide
 have sign : Plain fun unit => unit == unitOf '-' || unit == unitOf '+' := by decide
 unfold exponentEnd
 dsimp only
 split
 next marked =>
  have first := Text.Solid.unit mark marked
  split
  next signed => exact (first.step sign signed).skip (by decide)
  · exact first.skip (by decide)
 · exact .refl pos

lemma mantissaEnd_solid (text : Text) (start : Nat) : text.Solid start (mantissaEnd text start) := by
 have whole : text.Solid start (text.skipWhile isDecUnit start) := (Text.Solid.refl start).skip (by decide)
 unfold mantissaEnd
 dsimp only
 split
 next point => exact (whole.step (show Plain (· == unitOf '.') by decide) point).skip (by decide)
 · exact whole.skip (by decide)

lemma fractionEnd_solid (text : Text) (start : Nat) : text.Solid start (fractionEnd text start) := by
 unfold fractionEnd
 dsimp only
 split
 · exact (mantissaEnd_solid text start).append (exponentEnd_solid text _)
 · exact mantissaEnd_solid text start

/-- A fraction that starts with a digit or a point is not empty. -/
lemma lt_fractionEnd (starts : isDecUnit (text.unit start) ∨ text.unit start = unitOf '.') :
  start < fractionEnd text start := by
 have mantissa : start < mantissaEnd text start := by
  refine Nat.lt_of_lt_of_le ?_ (Text.le_skipWhile text isDecUnit _)
  rcases starts with digit | point
  · have whole := Text.lt_skipWhile (show isDecUnit 0 = false by decide) digit
    split <;> omega
  · have empty : text.skipWhile isDecUnit start = start := by
     rw [Text.skipWhile_eq text (by decide), point]
     rfl
    simp [empty, point]
 simp only [fractionEnd, mantissa, if_true]
 exact Nat.lt_of_lt_of_le mantissa (exponentEnd_solid text _).le

/-- A number that was found is not empty and lies in one line. -/
def NumScan.Fits (text : Text) (start : Nat) : NumScan -> Prop
 | .found _ _ stop => start < stop ∧ text.Solid start stop
 | _ => True

lemma withImagMark_fits (value : NumVal) (nonempty : start < stop) (solid : text.Solid start stop) :
  (withImagMark text value stop).Fits text start := by
 unfold withImagMark
 split
 next mark => exact ⟨by omega, solid.step (show Plain isImagMark by decide) mark⟩
 · exact ⟨nonempty, solid⟩

lemma integer_fits (nonempty : start < stop) (solid : text.Solid start stop) :
  (scanNum.integer text start stop).Fits text start := by
 unfold scanNum.integer
 dsimp only
 split
 · exact withImagMark_fits _ nonempty solid
 · trivial

lemma fraction_fits {startsWithDigit : Bool}
  (digit : startsWithDigit -> isDecUnit (text.unit start)) :
  (scanNum.fraction text start startsWithDigit).Fits text start := by
 unfold scanNum.fraction
 dsimp only
 split
 next starts =>
  simp only [Bool.or_eq_true, Bool.and_eq_true, beq_iff_eq] at starts
  exact withImagMark_fits _ (lt_fractionEnd (starts.imp digit (·.1))) (fractionEnd_solid text start)
 · trivial

lemma scanDecimal_fits (solid : text.Solid start pos)
  (digit : isDecUnit (text.unit pos) -> isDecUnit (text.unit start)) :
  (scanNum.scanDecimal text start pos).Fits text start := by
 have least := solid.le
 have integer {test : UInt16 -> Bool} (plain : Plain test) (first : test (text.unit pos)) :
   (scanNum.integer text start (text.skipWhile test pos)).Fits text start :=
  integer_fits (Nat.lt_of_le_of_lt least (Text.lt_skipWhile plain.1 first)) (solid.skip plain)
 unfold scanNum.scanDecimal
 dsimp only
 split
 next nonzero =>
  have decimal : isDecUnit (text.unit pos) := by
   simp only [scanNum.isNonZeroDigit, isDecUnit, Bool.and_eq_true, decide_eq_true_eq,
    Bool.or_eq_true, UInt16.le_iff_toNat_le] at nonzero ⊢
   exact .inl ⟨Nat.le_trans (by decide) nonzero.1, nonzero.2⟩
  split
  · exact integer (by decide) decimal
  · exact fraction_fits fun _ => digit decimal
 · split
   next zero =>
    split
    · exact integer (show Plain fun unit => unit == 0x30 || unit == 0x5F by decide) (by simp_all)
    · exact fraction_fits fun _ => digit (by rw [eq_of_beq zero]; decide)
   · exact fraction_fits (by simp)

/-- The letters that may follow a zero, with the digits they announce. -/
lemma radixOf?_plain {marker : UInt16} {radix : Nat} {isDigit : UInt16 -> Bool}
  (found : radixOf? marker = some (radix, isDigit)) :
  Plain isDigit ∧ marker ≠ 0 ∧ isBreak marker = false ∧ isDecUnit marker = false ∧
   isDigit 0x30 ∧ isDigit 0x5F := by
 unfold radixOf? at found
 repeat' split at found
 all_goals simp only [Option.some.injEq, Prod.mk.injEq, reduceCtorEq] at found
 all_goals
  rename_i letter
  obtain ⟨-, rfl⟩ := found
  simp only [Bool.or_eq_true, beq_iff_eq] at letter
  rcases letter with rfl | rfl <;> decide

lemma numAt_fits (text : Text) (start : Nat) : (numAt text start).Fits text start := by
 have decimal : (scanNum.scanDecimal text start start).Fits text start := scanDecimal_fits (.refl start) id
 unfold numAt scanNum
 dsimp only
 split
 · split
   next radix isDigit found =>
    split at found
    next zero =>
     have ⟨plain, nonzero, unbroken, _⟩ := radixOf?_plain found
     have marker := Text.Solid.unit (show Plain (· == 0x30) by decide) zero
     have first := marker.append (.of_unit (Text.lt_size_of_unit_ne nonzero) unbroken)
     have further := Text.le_skipWhile text isDigit (start + 2)
     split
     · split
       · exact scanDecimal_fits (first.skip plain) fun _ => by rw [eq_of_beq zero]; decide
       · exact ⟨by omega, first.skip plain⟩
     · exact decimal
    · contradiction
   · exact decimal
 · trivial

/-! ## Operators and words -/

/-- The units that may follow the first one of an operator. -/
def isOpTail (unit : UInt16) : Bool := [0x3D, 0x2A, 0x2F, 0x3C, 0x3E].contains unit

private theorem opAt?_length {first second third : UInt16} {op : Op}
  (found : opAt? #[first, second, third] 0 = some (op, length)) : (first != 0 && !isBreak first) ∧
   (length = 1 ∨ isOpTail second ∧ (length = 2 ∨ length = 3 ∧ third = 0x3D)) := by
 constructor
 · refine Classical.byContradiction fun layout => ?_
   have layout : first = 0 ∨ first = 0x0D ∨ first = 0x0A := by
    simp [isBreak] at layout
    grind
   rcases layout with rfl | rfl | rfl <;> contradiction
 · simp only [opAt?, Text.unit] at found
   split at found
   all_goals simp [isOpTail] at found ⊢ <;> grind

lemma opAt?_solid {op : Op} (found : opAt? text pos = some (op, length)) :
  0 < length ∧ text.Solid pos (pos + length) := by
 have window : opAt? #[text.unit pos, text.unit (pos + 1), text.unit (pos + 2)] 0 = some (op, length) := found
 have ⟨word, tail⟩ := opAt?_length window
 have first := Text.Solid.unit (show Plain fun unit => unit != 0 && !isBreak unit by decide) word
 rcases tail with rfl | ⟨follows, rfl | ⟨rfl, eq⟩⟩
 · exact ⟨by decide, first⟩
 · exact ⟨by decide, first.step (show Plain isOpTail by decide) follows⟩
 · exact ⟨by decide, (first.step (show Plain isOpTail by decide) follows).step
    (show Plain (· == 0x3D) by decide) (by simp [eq])⟩

/-- A string holds what its quotes enclose, and words, commas and dots have a width. -/
def TokenKind.Fits (text : Text) (start stop : Nat) : TokenKind -> Prop
 | .string flags escaped prefixLen => ∃ last, start + prefixLen + flags.quoteLen <= last ∧
   last + (if flags.unclosed then 0 else flags.quoteLen) = stop ∧
   escaped = text.slice (start + prefixLen + flags.quoteLen) last
 | .ident _ | .kw _ | .comma | .dot => start < stop
 | _ => True

lemma wordAt_known {inFStr : Bool} {kind : TokenKind} (found : wordAt text pos inFStr = .known kind stop) :
  kind.isLayout = false ∧ kind.Fits text pos stop ∧ pos < stop ∧ text.Solid pos stop := by
 have number := numAt_fits text pos
 have point : Plain (· == unitOf '.') := by decide
 unfold wordAt opWord at found
 cases scanned : numAt text pos <;> rw [scanned] at found number <;> dsimp only at found
 case malformed => contradiction
 case found =>
  obtain ⟨rfl, rfl⟩ := Word.known.inj found
  exact ⟨rfl, trivial, number⟩
 case absent =>
  repeat' split at found
  all_goals try contradiction
  all_goals obtain ⟨rfl, rfl⟩ := Word.known.inj found
  next dot dots =>
   simp only [Bool.and_eq_true] at dots
   exact ⟨rfl, trivial, by omega, ((Text.Solid.unit point dot).step point dots.1).step point dots.2⟩
  next dot _ => exact ⟨rfl, Nat.lt_succ_self _, by omega, .unit point dot⟩
  next nonempty =>
   refine ⟨?_, ?_, nonempty, identEnd_solid text pos⟩
   all_goals unfold identKind; split <;> trivial
  next mark =>
   simp only [Bool.and_eq_true] at mark
   exact ⟨rfl, trivial, by omega, .unit (show Plain (· == unitOf '!') by decide) mark.1.1⟩
  next arrow =>
   simp only [Bool.and_eq_true] at arrow
   exact ⟨rfl, trivial, by omega, (Text.Solid.unit (show Plain (· == unitOf '-') by decide) arrow.1).step
    (show Plain (· == 0x3E) by decide) arrow.2⟩
  next length known =>
   have ⟨nonempty, solid⟩ := opAt?_solid known
   exact ⟨rfl, trivial, by omega, solid⟩

lemma wordAt_malformed {inFStr : Bool} {digits : String}
  (malformed : wordAt text pos inFStr = .malformed digits) : numAt text pos = .malformed digits := by
 unfold wordAt opWord at malformed
 cases number : numAt text pos <;> simp only [number] at malformed
 case malformed => simpa using malformed
 case found => contradiction
 case absent =>
  repeat' split at malformed
  all_goals contradiction

/-! ## String prefixes -/

lemma prefixLen?_solid (found : prefixLen? text pos = some length) :
  text.Solid pos (pos + length) ∧ isQuote (text.unit (pos + length)) := by
 have letter : Plain (isLetterOf ['f', 'r', 'b', 'u', 't']) := by decide
 unfold prefixLen? at found
 dsimp only at found
 split at found
 next quoted =>
  obtain rfl := Option.some.inj found
  exact ⟨.refl pos, quoted⟩
 · split at found
   next single =>
    obtain rfl := Option.some.inj found
    simp only [Bool.and_eq_true] at single
    exact ⟨.unit letter single.1, single.2⟩
   · split at found
     next double =>
      obtain rfl := Option.some.inj found
      simp only [Bool.and_eq_true] at double
      have letters : isLetterOf ['f', 'r', 'b', 'u', 't'] (text.unit pos) ∧
        isLetterOf ['f', 'r', 'b', 'u', 't'] (text.unit (pos + 1)) := by
       have := double.1
       simp [isPrefixPair, isLetterOf] at this ⊢
       grind
      exact ⟨(Text.Solid.unit letter letters.1).step letter letters.2, double.2⟩
     · contradiction

lemma quoteFlags_solid (solid : text.Solid pos (pos + length)) (quoted : isQuote (text.unit (pos + length))) :
  text.Solid pos (pos + length + (quoteFlags text pos length).quoteLen) := by
 have again : Plain (· == text.unit (pos + length)) := by
  simp only [isQuote, Bool.or_eq_true, beq_iff_eq] at quoted
  rcases quoted with eq | eq <;> rw [eq] <;> decide
 have first := solid.step (show Plain isQuote by decide) quoted
 unfold StrFlags.quoteLen
 split
 next triple =>
  simp only [quoteFlags, Bool.and_eq_true] at triple
  exact (first.step again triple.1).step again triple.2
 · exact first

/-! ## Runs that no rule can read -/

/-- No high surrogate of the text stands alone. -/
def Text.Paired (text : Text) : Prop :=
 ∀ pos, isHighSurrogate (text.unit pos) -> isLowSurrogate (text.unit (pos + 1))

lemma Text.Paired.of_lt (paired : ∀ pos, pos < text.size ->
  isHighSurrogate (text.unit pos) -> isLowSurrogate (text.unit (pos + 1))) : text.Paired :=
 fun pos high => paired pos (Text.lt_size_of_unit_ne fun zero => by simp [zero, isHighSurrogate] at high) high

/-- No line break stands right behind a unit that begins a character of identifiers. -/
def Text.Whole (text : Text) : Prop :=
 ∀ pos, isIdentSurrogate (text.unit pos) -> isBreak (text.unit (pos + 1)) = false

private theorem bisect_go {α : Type} {items : Array α} {item : α} {bounds : α -> Nat × Nat} {point fuel low high : Nat}
  (hit : bisect?.go items bounds point fuel low high = some item) :
  item ∈ items ∧ (bounds item).1 <= point ∧ point <= (bounds item).2 := by
 induction fuel generalizing low high with
 | zero => cases hit
 | succ fuel known =>
  rw [bisect?.go] at hit
  split at hit
  · cases hit
  · obtain ⟨other, inside, hit⟩ := Option.bind_eq_some_iff.mp hit
    split at hit
    · exact known hit
    · split at hit
      · exact known hit
      · cases hit
        exact ⟨Array.mem_of_getElem? inside, by omega, by omega⟩

/-- What lies in a set lies in one of its intervals. -/
lemma CodePointSet.exists_of_contains {set : CodePointSet} {codePoint : Nat} (found : set.contains codePoint) :
  ∃ interval ∈ set.intervals, interval.1 <= codePoint ∧ codePoint <= interval.2 :=
 (Option.isSome_iff_exists.mp found).imp fun _ hit => bisect_go hit

lemma isHighSurrogate_of_isIdentSurrogate {unit : UInt16}
  (holds : isIdentSurrogate unit) : isHighSurrogate unit := by
 simp only [isIdentSurrogate, Bool.and_eq_true] at holds
 obtain ⟨interval, inside, least, most⟩ := CodePointSet.exists_of_contains holds.2
 have bounds : ∀ interval ∈ identSurrogateSet.intervals, 0xD800 <= interval.1 ∧ interval.2 <= 0xDBFF := by decide +kernel
 have bound := bounds interval inside
 simp only [isHighSurrogate, Bool.and_eq_true, decide_eq_true_eq, UInt16.le_iff_toNat_le]
 exact ⟨Nat.le_trans bound.1 least, Nat.le_trans most bound.2⟩

lemma Text.Paired.whole (paired : text.Paired) : text.Whole := by
 intro pos pair
 have low := paired pos (isHighSurrogate_of_isIdentSurrogate pair)
 refine Bool.eq_false_iff.mpr fun broken => ?_
 rcases isBreak_iff.mp broken with eq | eq <;> simp [eq, isLowSurrogate] at low

lemma invalidEnd_solid (whole : text.Whole) (start : Nat) : text.Solid start (invalidEnd text start) :=
 Text.skipBy_keeps (text.Solid start) (.refl start) fun pos solid inside further => by
  dsimp only at further ⊢
  split at further
  · omega
  next word =>
   rw [if_neg word]
   simp only [Bool.or_eq_true, not_or, Bool.not_eq_true] at word
   have first := solid.append (.of_unit inside word.1)
   split
   next pair =>
    simp only [Bool.and_eq_true] at pair
    exact first.append (.of_unit (by simpa using pair.2) (whole pos pair.1))
   · exact first

lemma invalidEnd_bounds (inside : start <= text.size) :
  start <= invalidEnd text start ∧ invalidEnd text start <= text.size :=
 Text.skipBy_keeps (fun stop => start <= stop ∧ stop <= text.size) ⟨Nat.le_refl _, inside⟩
  fun pos bounds within _ => by
   simp only [Bool.and_eq_true, decide_eq_true_eq]
   repeat' split
   all_goals omega

/-- Only layout stops an invalid run before it has begun. -/
lemma layout_of_invalidEnd_le (inside : start < text.size) (empty : invalidEnd text start <= start) :
  isBreak (text.unit start) ∨ isSpacing (text.unit start) := by
 rw [<- Bool.or_eq_true]
 cases layout : isBreak (text.unit start) || isSpacing (text.unit start) with
 | true => rfl
 | false =>
  refine absurd (Text.lt_skipBy inside ?_) (Nat.not_lt.mpr empty)
  simp only [layout, Bool.false_eq_true, if_false]
  split <;> decide

/-! ## Moves -/

/-- The closing quote of a string with the given flags stands at `pos`. -/
def QuoteAt (text : Text) (flags : StrFlags) (pos : Nat) : Prop :=
 text.unit pos = flags.quote ∧ (flags.triplicate ->
  text.unit (pos + 1) = flags.quote ∧ text.unit (pos + 2) = flags.quote)

/-- What a move says about the text. -/
def Scan.ContentMove.Fits (text : Text) (flags : StrFlags) (pos : Nat) : ContentMove -> Prop
 | .pass length _ => 0 < length ∧ text.Solid pos (pos + length)
 | .line skip => text.Solid pos (pos + skip) ∧ isBreak (text.unit (pos + skip))
 | .unclosed => text.size <= pos ∨ isBreak (text.unit pos)
 | .field _ => flags.hasFields ∧ (text.unit pos = 0x7B ∨ text.unit pos = 0x7D)
 | .quote => QuoteAt text flags pos

lemma escapeMove_fits (flags : StrFlags) (named : Bool) (backslash : text.Solid pos (pos + 1)) :
  (escapeMove text flags named pos).Fits text flags pos := by
 unfold escapeMove
 dsimp only
 split
 · exact ⟨by omega, backslash⟩
 · split
   · exact ⟨backslash, ‹_›⟩
   next unbroken =>
    split
    next more =>
     simp only [Bool.and_eq_true, decide_eq_true_eq] at more
     exact ⟨by omega, backslash.append (.of_unit more.1 (by simpa using unbroken))⟩
    · exact ⟨by omega, backslash⟩

lemma contentMove_fits (text : Text) (flags : StrFlags) (inField inFormat named : Bool) (pos : Nat) :
  (contentMove text flags inField inFormat named pos).Fits text flags pos := by
 unfold contentMove
 dsimp only
 split
 · exact .inl ‹_›
 rename_i inside
 split
 next backslash => exact escapeMove_fits flags named (.unit (show Plain (· == 0x5C) by decide) backslash)
 split
 next broken =>
  split
  · exact ⟨.refl pos, broken⟩
  · exact .inr broken
 -- The unit at hand lies in the line.
 rename_i unbroken
 have first : text.Solid pos (pos + 1) := .of_unit (by omega) (by simpa using unbroken)
 have doubled (brace : UInt16) (plain : Plain (· == brace))
   (again : ¬ (inFormat || text.unit (pos + 1) != brace)) :
   (ContentMove.pass 2 named).Fits text flags pos :=
  ⟨by omega, first.step plain (by simp at again ⊢; exact again.2)⟩
 split
 next closes =>
  simp only [Bool.and_eq_true, Bool.or_eq_true, beq_iff_eq, Bool.not_eq_true'] at closes
  exact ⟨closes.1, fun triple => closes.2.resolve_left (by simp [triple])⟩
 split
 next brace =>
  simp only [Bool.and_eq_true, beq_iff_eq] at brace
  split
  · exact ⟨brace.1.2, .inl brace.2⟩
  · exact doubled 0x7B (by decide) ‹_›
 split
 · exact ⟨by omega, first⟩
 split
 next brace =>
  simp only [Bool.and_eq_true, beq_iff_eq] at brace
  split
  · exact ⟨brace.1, .inr brace.2⟩
  · exact doubled 0x7D (by decide) ‹_›
 · exact ⟨by omega, first⟩

/-! ## Ends -/

/-- No end of a content has been met yet. -/
structure StrFlags.Fresh (flags : StrFlags) : Prop where
 unclosed : flags.unclosed = false
 fieldStart : flags.replacementFieldStart = false
 fieldEnd : flags.replacementFieldEnd = false

/-- The ways in which a content ends, with the number of units of its closing quote. -/
inductive Closing (text : Text) (flags : StrFlags) (content : Content) : Nat -> Prop where
 | unclosed (mark : content.flags.unclosed)
    (ends : text.size <= content.pos ∨ isBreak (text.unit content.pos)) :
    Closing text flags content 0
 | field (mark : content.flags.replacementFieldStart ∨ content.flags.replacementFieldEnd)
    (goes : content.flags.unclosed = false) (formatted : flags.hasFields)
    (brace : text.unit content.pos = 0x7B ∨ text.unit content.pos = 0x7D) :
    Closing text flags content 0
 | quote (fresh : content.flags.Fresh) (closes : QuoteAt text flags content.pos) :
    Closing text flags content flags.quoteLen

lemma Closing.solid (closing : Closing text flags content length) :
  text.Solid content.pos (content.pos + length) := by
 cases closing with
 | unclosed => exact .refl _
 | field => exact .refl _
 | quote _ closes =>
  have plain : Plain (· == flags.quote) := by unfold StrFlags.quote; split <;> decide
  have first := Text.Solid.unit plain (beq_iff_eq.mpr closes.1)
  unfold StrFlags.quoteLen
  split
  next triple =>
   have others := closes.2 triple
   exact (first.append (.unit plain (beq_iff_eq.mpr others.1))).append (.unit plain (beq_iff_eq.mpr others.2))
  · exact first

/-- A string without fields ends with its quote or breaks off. -/
lemma Closing.length_eq (closing : Closing text flags content length) (plain : ¬ flags.hasFields) :
  length = if content.flags.unclosed then 0 else flags.quoteLen := by
 cases closing with
 | unclosed mark => rw [if_pos mark]
 | field _ _ formatted => exact absurd formatted plain
 | quote fresh => simp [fresh.unclosed]

/-- An end without a closing quote does not stand at a quote. -/
lemma Closing.not_quote (closing : Closing text flags content 0) : isQuote (text.unit content.pos) = false := by
 generalize none : 0 = length at closing
 cases closing with
 | unclosed _ ends =>
  rcases ends with outside | broken
  · rw [Text.unit_of_size_le outside]
    decide
  · rcases isBreak_iff.mp broken with eq | eq <;> rw [eq] <;> decide
 | field _ _ _ brace => rcases brace with eq | eq <;> rw [eq] <;> decide
 | quote =>
  unfold StrFlags.quoteLen at none
  split at none <;> contradiction

/-! ## The lines of a walk -/

lemma breakLen_pos (text : Text) (pos : Nat) : 0 < breakLen text pos := by
 unfold breakLen
 split <;> omega

@[simp] lemma Scan.Content.endLine_pos (content : Content) : content.endLine.pos = content.pos := by
 unfold endLine
 split <;> rfl

@[simp] lemma Scan.Content.endLine_flags (content : Content) : content.endLine.flags = content.flags := by
 unfold endLine
 split <;> rfl

/-- What a walk over the content of a string can do: pass units of one line, or pass a line break and
record the line that ends there. -/
inductive Walk (text : Text) (start : Content) : Content -> Prop where
 | here : Walk text start start
 | pass {mid last : Content} (before : Walk text start mid)
    (solid : text.Solid mid.pos last.pos) (lines : last.lines = mid.lines)
    (lineStart : last.lineStart = mid.lineStart) : Walk text start last
 | line {mid : Content} (before : Walk text start mid)
    (broken : isBreak (text.unit mid.pos)) :
    Walk text start {mid with pos := mid.pos + breakLen text mid.pos}.endLine

lemma Scan.isBreak.lt_size (broken : isBreak (text.unit pos)) : pos < text.size :=
 Text.lt_size_of_unit_ne fun zero => by simp [zero, isBreak] at broken

lemma breakLen_le (broken : isBreak (text.unit pos)) : pos + breakLen text pos <= text.size := by
 have inside := isBreak.lt_size broken
 unfold breakLen
 split
 next pair =>
  simp only [Bool.and_eq_true, beq_iff_eq] at pair
  have second : pos + 1 < text.size := Text.lt_size_of_unit_ne (by rw [pair.2]; decide)
  omega
 · omega

lemma Scan.isBreak.of_lt {off : Nat} (broken : isBreak (text.unit pos)) (first : pos <= off)
  (last : off < pos + breakLen text pos) : isBreak (text.unit off) := by
 unfold breakLen at last
 split at last
 next pair =>
  simp only [Bool.and_eq_true, beq_iff_eq] at pair
  rcases (by omega : off = pos ∨ off = pos + 1) with rfl | rfl
  · exact broken
  · rw [pair.2]
    decide
 · rwa [show off = pos by omega]

namespace Walk
variable {text : Text} {start last : Content}
lemma trans {mid : Content} (walk : Walk text start mid) (more : Walk text mid last) :
  Walk text start last := by
 induction more with
 | here => exact walk
 | pass _ solid lines lineStart ih => exact ih.pass solid lines lineStart
 | line _ broken ih => exact ih.line broken

lemma le (walk : Walk text start last) : start.pos <= last.pos := by
 induction walk with
 | here => exact Nat.le_refl _
 | pass _ solid _ _ ih => exact Nat.le_trans ih solid.le
 | line _ _ ih => simp only [Content.endLine_pos]; omega

lemma le_size (walk : Walk text start last) (inside : start.pos <= text.size) : last.pos <= text.size := by
 induction walk with
 | here => exact inside
 | pass _ solid _ _ ih => exact solid.le_size ih
 | line _ broken _ => simpa using breakLen_le broken

end Walk

private theorem scanContent_go {start : Content} (inField inFormat : Bool) (fuel : Nat) (inside : content.pos <= text.size) (fresh : content.flags.Fresh)
  (enough : text.size < content.pos + fuel) :
  let found := scanContent.go text inField inFormat start fuel content
  Walk text content found.content ∧ found.content.flags.quoteLen = content.flags.quoteLen ∧
   ∃ length, found.stop = found.content.pos + length ∧ Closing text start.flags found.content length := by
 induction fuel generalizing content with
 | zero => omega
 | succ fuel ih =>
  have goesOn {next : Content} (walk : Walk text content next) (further : content.pos < next.pos)
    (fresh : next.flags.Fresh) (quote : next.flags.quoteLen = content.flags.quoteLen) :
    Walk text content (scanContent.go text inField inFormat start fuel next).content ∧ _ :=
   have ⟨more, same, closing⟩ := ih (walk.le_size inside) fresh (by omega)
   ⟨walk.trans more, And.intro (same.trans quote) closing⟩
  have fits := contentMove_fits text start.flags inField inFormat content.named content.pos
  simp only [scanContent.go]
  revert fits
  cases contentMove text start.flags inField inFormat content.named content.pos with
  | pass length named =>
   intro ⟨positive, solid⟩
   exact goesOn (Walk.here.pass solid rfl rfl) (Nat.lt_add_of_pos_right positive) ⟨fresh.1, fresh.2, fresh.3⟩ rfl
  | line skip =>
   intro ⟨solid, broken⟩
   have passed : Walk text content {content with pos := content.pos + skip} := Walk.here.pass solid rfl rfl
   have positive := breakLen_pos text (content.pos + skip)
   exact goesOn (passed.line broken) (by simp only [Content.endLine_pos]; omega) (by simpa using fresh) (by simp)
  | unclosed => exact fun ends => ⟨.pass .here (.refl _) rfl rfl, rfl, 0, rfl, .unclosed rfl ends⟩
  | field opens =>
   intro ⟨formatted, brace⟩
   cases opens with
   | true => exact ⟨.pass .here (.refl _) rfl rfl, rfl, 0, rfl, .field (.inl rfl) fresh.1 formatted brace⟩
   | false => exact ⟨.pass .here (.refl _) rfl rfl, rfl, 0, rfl, .field (.inr rfl) fresh.1 formatted brace⟩
  | quote => exact fun closes => ⟨.here, rfl, _, rfl, .quote fresh closes⟩

/-- A walk from a fresh content ends in one of the ways of a string. -/
lemma scanContent_closing (inField inFormat : Bool) (start : Content)
  (inside : start.pos <= text.size) (fresh : start.flags.Fresh) :
  let found := scanContent text inField inFormat start
  Walk text start found.content ∧ found.content.flags.quoteLen = start.flags.quoteLen ∧
   ∃ length, found.stop = found.content.pos + length ∧ Closing text start.flags found.content length :=
 scanContent_go inField inFormat _ inside fresh (by omega)

end TypeChecker
