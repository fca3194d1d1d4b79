import TypeChecker.Proofs.Token.Outcome

/-! Line ends. A text whose line feeds are given a carriage return each is read into the same tokens: they are moved
by the units put in before them, and only the kinds of the line ends tell the texts apart. -/

namespace TypeChecker
open Scan
namespace Text

def crlfUnit (unit : UInt16) : List UInt16 := if unit = 0x0A then [0x0D, 0x0A] else [unit]

/-- The text with a carriage return before each line feed. -/
def crlf (text : Text) : Text := (text.toList.flatMap crlfUnit).toArray

/-- Where an offset moves to when the carriage returns are put in. -/
def moved (text : Text) (off : Nat) : Nat := off + (text.slice 0 off).count 0x0A

/-- The first unit of what a unit becomes. -/
def shown (unit : UInt16) : UInt16 := if unit = 0x0A then 0x0D else unit

variable {text : Text} {start stop off : Nat}
lemma crlf_append (left right : Text) : crlf (left ++ right) = crlf left ++ crlf right := by simp [crlf]

lemma crlf_of_not_mem (bare : 0x0A ∉ text) : text.crlf = text := by
 have same (units : List UInt16) (bare : 0x0A ∉ units) : units.flatMap crlfUnit = units := by
  induction units with
  | nil => rfl
  | cons unit units ih =>
   rw [List.mem_cons, not_or] at bare
   simp [crlfUnit, Ne.symm bare.1, ih bare.2]
 simp [crlf, same text.toList (by simpa using bare)]

lemma size_crlf (text : Text) : text.crlf.size = text.size + text.count 0x0A := by
 have sum (units : List UInt16) : (units.flatMap crlfUnit).length = units.length + units.count 0x0A := by
  induction units with
  | nil => rfl
  | cons unit units ih =>
   rw [List.flatMap_cons, List.length_append, ih, List.count_cons, crlfUnit]
   split <;> simp_all <;> omega
 simp [crlf, sum]

lemma size_slice_crlf (inside : off <= text.size) : (text.slice 0 off).crlf.size = text.moved off := by
 rw [size_crlf, moved]
 simp [slice, inside]

lemma crlf_eq_append (text : Text) (inside : off <= text.size) :
  text.crlf = (text.slice 0 off).crlf ++ (text.slice off text.size).crlf := by
 rw [<- crlf_append]
 simp [slice, inside]

/-- What is cut out of the text moves as a whole. -/
lemma slice_crlf (ordered : start <= stop) (inside : stop <= text.size) :
  text.crlf.slice (text.moved start) (text.moved stop) = (text.slice start stop).crlf := by
 have whole : (text.slice 0 stop).crlf = (text.slice 0 start).crlf ++ (text.slice start stop).crlf := by
  rw [<- crlf_append]
  simp [slice, ordered]
 rw [crlf_eq_append text inside, whole, <- size_slice_crlf inside, <- size_slice_crlf (Nat.le_trans ordered inside), whole]
 simp [slice]

lemma moved_of_size_le (outside : text.size <= off) : text.moved off = off + text.count 0x0A := by
 have whole : text.slice 0 off = text := Array.ext (by simp [slice]; omega) fun _ _ _ => by simp [slice]
 rw [moved, whole]

lemma moved_zero (text : Text) : text.moved 0 = 0 := by simp [moved, slice]

lemma moved_size (text : Text) : text.crlf.size = text.moved text.size := by
 rw [moved_of_size_le Nat.le.refl, size_crlf]

lemma slice_succ (inside : off < text.size) : text.slice off (off + 1) = #[text.unit off] := by
 refine Array.ext (by simp [slice]; omega) fun index _ within => ?_
 obtain rfl : index = 0 := by simpa using within
 simp [slice, unit, inside]

lemma moved_succ (text : Text) (off : Nat) :
  text.moved (off + 1) = text.moved off + (crlfUnit (text.unit off)).length := by
 rcases Nat.lt_or_ge off text.size with inside | outside
 · have last : text.slice 0 (off + 1) = text.slice 0 off ++ text.slice off (off + 1) := by simp [slice]
   rw [moved, last, slice_succ inside, moved, crlfUnit, Array.count_append]
   split <;> simp_all <;> omega
 · rw [moved_of_size_le (Nat.le_succ_of_le outside), moved_of_size_le outside, unit_of_size_le outside, crlfUnit]
   simp
   omega

lemma unit_slice (stop : Nat) (within : start + off < stop) : (text.slice start stop).unit off = text.unit (start + off) := by
 rcases Nat.lt_or_ge (start + off) text.size with inside | outside
 · simp [slice, unit, inside, show off < min stop text.size - start by omega]
 · rw [unit_of_size_le outside, unit_of_size_le]
   simp [slice]
   omega

lemma unit_crlf_add (text : Text) (off index : Nat) (within : index < (crlfUnit (text.unit off)).length) :
  text.crlf.unit (text.moved off + index) = (crlfUnit (text.unit off)).getD index 0 := by
 rcases Nat.lt_or_ge off text.size with inside | outside
 · rw [<- unit_slice (text.moved (off + 1)) (by rw [moved_succ]; omega), slice_crlf (Nat.le_succ _) inside,
    slice_succ inside]
   simp [crlf, unit]
 · rw [unit_of_size_le outside] at within ⊢
   rw [unit_of_size_le (by rw [size_crlf, moved_of_size_le outside]; omega)]
   simp_all [crlfUnit]

lemma unit_crlf (text : Text) (off : Nat) : text.crlf.unit (text.moved off) = shown (text.unit off) := by
 have here := unit_crlf_add text off 0 (by rw [crlfUnit]; split <;> simp)
 rw [Nat.add_zero] at here
 rw [here, crlfUnit, shown]
 split <;> rfl

lemma unit_crlf_succ (feed : text.unit off = 0x0A) : text.crlf.unit (text.moved off + 1) = 0x0A := by
 rw [unit_crlf_add text off 1 (by simp [feed, crlfUnit]), feed]
 rfl

lemma moved_feed (feed : text.unit off = 0x0A) : text.moved (off + 1) = text.moved off + 2 := by
 rw [moved_succ, feed]
 rfl

lemma moved_next (other : text.unit off ≠ 0x0A) : text.moved (off + 1) = text.moved off + 1 := by
 rw [moved_succ, crlfUnit, if_neg other]
 rfl

lemma moved_lt (less : start < stop) : text.moved start < text.moved stop := by
 induction stop with
 | zero => omega
 | succ stop ih =>
  have step : text.moved stop < text.moved (stop + 1) := by
   rw [moved_succ, crlfUnit]
   split <;> simp
  rcases Nat.lt_or_eq_of_le (Nat.le_of_lt_succ less) with less | rfl
  · exact Nat.lt_trans (ih less) step
  · exact step

lemma moved_le_iff : text.moved start <= text.moved stop ↔ start <= stop := by
 rcases Nat.lt_or_ge stop start with less | least
 · have : text.moved _ < text.moved _ := moved_lt less
   omega
 · rcases Nat.lt_or_eq_of_le least with less | rfl
   · have : text.moved _ < text.moved _ := moved_lt less
     omega
   · simp

lemma moved_lt_iff : text.moved start < text.moved stop ↔ start < stop := by
 rw [<- Nat.not_le, moved_le_iff, Nat.not_le]

lemma moved_span (ordered : start <= stop) :
  text.moved start + (text.moved stop - text.moved start) = text.moved (start + (stop - start)) := by
 rw [Nat.add_sub_cancel' (moved_le_iff.mpr ordered), Nat.add_sub_cancel' ordered]

/-! ## Runs within a line -/

lemma Solid.shorten {mid : Nat} (solid : text.Solid start stop) (first : start <= mid) (last : mid <= stop) :
  text.Solid start mid :=
 ⟨first, fun _ least most => solid.inside _ least (by omega), fun _ least most => solid.unbroken _ least (by omega)⟩

lemma Solid.moved (solid : text.Solid start stop) : text.moved stop = text.moved start + (stop - start) := by
 obtain ⟨length, rfl⟩ := Nat.exists_eq_add_of_le solid.le
 induction length with
 | zero => simp
 | succ length ih =>
  have other : text.unit (start + length) ≠ 0x0A := fun feed => by
   have unbroken := solid.unbroken (start + length) (by omega) (by omega)
   simp [feed, isBreak] at unbroken
  rw [<- Nat.add_assoc, moved_next other, ih (solid.shorten (by omega) (by omega))]
  omega

lemma Solid.slice_crlf (solid : text.Solid start stop) :
  text.crlf.slice (text.moved start) (text.moved stop) = text.slice start stop := by
 rcases Nat.lt_or_eq_of_le solid.le with less | rfl
 · rw [Text.slice_crlf solid.le (solid.le_size (Nat.le_of_lt (solid.inside start Nat.le.refl less))), crlf_of_not_mem]
   intro mem
   obtain ⟨off, first, last, _, feed⟩ := mem_slice.mp mem
   have unbroken := solid.unbroken off first last
   simp [feed, isBreak] at unbroken
 · rw [slice, Array.extract_empty_of_stop_le_start Nat.le.refl, slice, Array.extract_empty_of_stop_le_start Nat.le.refl]

lemma test_shown {α : Type} (test : UInt16 -> α) (alike : test 0x0D = test 0x0A) (unit : UInt16) :
  test (shown unit) = test unit := by
 unfold shown
 split <;> simp_all

/-- Goes on alike in both texts. -/
lemma skipBy_crlf {width width' : Nat -> Nat} (same : ∀ pos < text.size, width' (text.moved pos) = width pos ∧
  text.moved (pos + width pos) = text.moved pos + width pos) (off : Nat) :
  text.crlf.skipBy width' (text.moved off) = text.moved (text.skipBy width off) := by
 rw [skipBy_eq, skipBy_eq text]
 by_cases further : off < text.size ∧ 0 < width off
 · have ⟨alike, moves⟩ := same off further.1
   rw [if_pos further, alike, if_pos ⟨by rw [moved_size]; exact moved_lt further.1, further.2⟩, <- moves]
   exact skipBy_crlf same (off + width off)
 · rw [if_neg further, if_neg]
   rintro ⟨inside, wide⟩
   rw [moved_size, moved_lt_iff] at inside
   rw [(same off inside).1] at wide
   exact further ⟨inside, wide⟩
termination_by text.size - off

lemma skipWhile_crlf (text : Text) (test : UInt16 -> Bool) (feed : test 0x0A = false) (alike : test 0x0D = test 0x0A) (off : Nat) :
  text.crlf.skipWhile test (text.moved off) = text.moved (text.skipWhile test off) := by
 refine skipBy_crlf (fun pos _ => ?_) off
 rw [unit_crlf, test_shown test alike]
 split
 · exact ⟨rfl, moved_next fun eq => by simp_all⟩
 · exact ⟨rfl, rfl⟩

end Text
open Text

/-! ## Words -/

variable {text : Text} {pos start stop : Nat}
/-- How the line goes on at an offset. -/
inductive Window (text : Text) (pos : Nat) : Prop where
 | feed (first : text.unit pos = 0x0A)
 | last (first : text.unit pos ≠ 0x0A) (second : text.unit (pos + 1) = 0x0A)
    (next : text.moved pos + 1 = text.moved (pos + 1))
 | both (first : text.unit pos ≠ 0x0A) (second : text.unit (pos + 1) ≠ 0x0A)
    (next : text.moved pos + 1 = text.moved (pos + 1)) (further : text.moved pos + 2 = text.moved (pos + 2))

lemma window (text : Text) (pos : Nat) : Window text pos := by
 by_cases first : text.unit pos = 0x0A
 · exact .feed first
 · have next := moved_next first
   by_cases second : text.unit (pos + 1) = 0x0A
   · exact .last first second next.symm
   · exact .both first second next.symm (by rw [moved_next second, next])

lemma exponentEnd_crlf (text : Text) (pos : Nat) :
  exponentEnd text.crlf (text.moved pos) = text.moved (exponentEnd text pos) := by
 have skips := skipWhile_crlf text isDecUnit rfl rfl
 cases window text pos with
 | feed first => simp [exponentEnd, unitOf, unit_crlf, shown, first]
 | last first second next =>
  simp [exponentEnd, unitOf, unit_crlf, shown, first, second, next, skips, apply_ite text.moved]
 | both first second next further =>
  simp [exponentEnd, unitOf, unit_crlf, shown, first, second, next, further, <- apply_ite text.moved, skips]

lemma mantissaEnd_crlf (text : Text) (start : Nat) :
  mantissaEnd text.crlf (text.moved start) = text.moved (mantissaEnd text start) := by
 have skips := skipWhile_crlf text isDecUnit rfl rfl
 simp only [mantissaEnd, skips]
 cases window text (text.skipWhile isDecUnit start) with
 | feed first => simp [unitOf, unit_crlf, shown, first, skips]
 | last first _ next | both first _ next => simp [unitOf, unit_crlf, shown, first, next, <- apply_ite text.moved, skips]

lemma fractionEnd_crlf (text : Text) (start : Nat) :
  fractionEnd text.crlf (text.moved start) = text.moved (fractionEnd text start) := by
 simp only [fractionEnd, mantissaEnd_crlf, exponentEnd_crlf, apply_ite text.moved, moved_lt_iff]

/-- The scan with its end moved. -/
def NumScan.crlf (text : Text) : NumScan -> NumScan
 | .found value imag stop => .found value imag (text.moved stop)
 | other => other

lemma withImagMark_crlf (value : NumVal) (stop : Nat) :
  withImagMark text.crlf value (text.moved stop) = (withImagMark text value stop).crlf text := by
 cases window text stop with
 | feed first => simp [withImagMark, isImagMark, unitOf, unit_crlf, shown, first, NumScan.crlf]
 | last first _ next | both first _ next =>
  simp only [withImagMark, unit_crlf, shown, if_neg first, next]
  split <;> rfl

lemma integer_crlf (solid : text.Solid start stop) : scanNum.integer text.crlf (text.moved start) (text.moved stop) =
  (scanNum.integer text start stop).crlf text := by
 simp only [scanNum.integer, solid.slice_crlf, withImagMark_crlf, apply_ite (NumScan.crlf text)]
 rfl

lemma fraction_crlf (start : Nat) (startsWithDigit : Bool) :
  scanNum.fraction text.crlf (text.moved start) startsWithDigit =
   (scanNum.fraction text start startsWithDigit).crlf text := by
 have starts : (text.crlf.unit (text.moved start) == unitOf '.' && isDigitUnit (text.crlf.unit (text.moved start + 1))) =
   (text.unit start == unitOf '.' && isDigitUnit (text.unit (start + 1))) := by
  cases window text start with
  | feed first => simp [unitOf, unit_crlf, shown, first]
  | last first _ next | both first _ next =>
   rw [next, unit_crlf, unit_crlf, test_shown isDigitUnit rfl, shown, if_neg first]
 simp only [scanNum.fraction, starts, fractionEnd_crlf, (fractionEnd_solid text start).slice_crlf,
  withImagMark_crlf, apply_ite (NumScan.crlf text)]
 rfl

lemma scanDecimal_crlf (solid : text.Solid start pos) :
  scanNum.scanDecimal text.crlf (text.moved start) (text.moved pos) =
   (scanNum.scanDecimal text start pos).crlf text := by
 have decimal := solid.skip (show Plain isDecUnit by decide)
 have zeros := solid.skip (show Plain fun unit => unit == 0x30 || unit == 0x5F by decide)
 simp only [scanNum.scanDecimal, unit_crlf, test_shown scanNum.isNonZeroDigit rfl,
  test_shown scanNum.endsInteger rfl, test_shown (· == 0x30) rfl,
  skipWhile_crlf text isDecUnit rfl rfl, fraction_crlf, integer_crlf decimal,
  skipWhile_crlf text (fun unit => unit == 0x30 || unit == 0x5F) rfl rfl, integer_crlf zeros,
  apply_ite (NumScan.crlf text)]

lemma scanNum_crlf (unbroken : text.unit start ≠ 0x0A) :
  scanNum text.crlf (text.moved start) = (scanNum text start).crlf text := by
 have radix : (if text.crlf.unit (text.moved start) == 0x30 then radixOf? (text.crlf.unit (text.moved start + 1)) else none) =
   if text.unit start == 0x30 then radixOf? (text.unit (start + 1)) else none := by
  rw [<- moved_next unbroken, unit_crlf, unit_crlf, shown, if_neg unbroken, test_shown radixOf? rfl]
 unfold scanNum
 rw [radix]
 dsimp only
 split
 next radix isDigit found =>
  split at found
  next zero =>
   have ⟨plain, nonzero, broken, _⟩ := radixOf?_plain found
   have first := (Text.Solid.unit (show Plain (· == 0x30) by decide) zero).append
    (.of_unit (lt_size_of_unit_ne nonzero) broken)
   have digits : text.Solid (start + 2) _ := (Text.Solid.refl (start + 2)).skip plain
   have two : text.moved start + 2 = text.moved (start + 2) := by rw [first.moved]; omega
   simp only [two, unit_crlf, test_shown isDigit (plain.2.1.trans plain.2.2.symm), scanDecimal_crlf (.refl start),
    skipWhile_crlf text isDigit plain.2.2 (plain.2.1.trans plain.2.2.symm), digits.slice_crlf, scanDecimal_crlf (first.skip plain),
    apply_ite (NumScan.crlf text)]
   rfl
  · contradiction
 · exact scanDecimal_crlf (.refl start)

lemma numAt_crlf (text : Text) (start : Nat) : numAt text.crlf (text.moved start) = (numAt text start).crlf text := by
 unfold numAt
 cases window text start with
 | feed first => simp [unit_crlf, shown, first, isDecUnit, unitOf, NumScan.crlf]
 | last first _ next | both first _ next =>
  simp only [next, unit_crlf, test_shown isDecUnit rfl, test_shown (· == unitOf '.') rfl,
   scanNum_crlf first, apply_ite (NumScan.crlf text)]
  rfl

variable (first second : UInt16)
lemma isIdentPair_shown : isIdentPair first (shown second) = isIdentPair first second :=
 test_shown _ (by simp [isIdentPair, isLowSurrogate]) second

lemma isIdentStartPair_shown : isIdentStartPair first (shown second) = isIdentStartPair first second :=
 test_shown _ (by simp [isIdentStartPair, isLowSurrogate]) second

lemma identRest_crlf (text : Text) (start : Nat) : identRest text.crlf (text.moved start) = text.moved (identRest text start) := by
 refine skipBy_crlf (fun pos _ => ?_) start
 cases window text pos with
 | feed first =>
  have none : isIdentUnit 0x0A = false ∧ isIdentUnit 0x0D = false := ⟨rfl, rfl⟩
  simp [unit_crlf, shown, first, none, isIdentPair]
 | last first second next =>
  rw [next, unit_crlf, unit_crlf, isIdentPair_shown, shown, if_neg first]
  cases single : isIdentUnit (text.unit pos) <;> simp [single, second, isIdentPair, isLowSurrogate, next]
 | both first second next further =>
  rw [next, unit_crlf, unit_crlf, isIdentPair_shown, shown, if_neg first]
  refine ⟨rfl, ?_⟩
  repeat' split
  · exact next.symm
  · exact further.symm
  · rfl

lemma identEnd_crlf (text : Text) (start : Nat) : identEnd text.crlf (text.moved start) = text.moved (identEnd text start) := by
 have rest := identRest_crlf text
 unfold identEnd
 cases window text start with
 | feed first =>
  have none : isIdentStart 0x0A = false ∧ isIdentStart 0x0D = false := ⟨rfl, rfl⟩
  simp [unit_crlf, shown, first, none, isIdentStartPair]
 | last first second next =>
  rw [next, unit_crlf, unit_crlf, isIdentStartPair_shown, shown, if_neg first]
  cases single : isIdentStart (text.unit start) <;> simp [second, isIdentStartPair, isLowSurrogate, rest, single]
 | both first second next further =>
  rw [next, further, unit_crlf, unit_crlf, isIdentStartPair_shown, shown, if_neg first]
  simp only [rest, apply_ite text.moved]

lemma opAt?_crlf (text : Text) (pos : Nat) : opAt? text.crlf (text.moved pos) = opAt? text pos := by
 unfold opAt?
 cases window text pos with
 | feed first => simp [unit_crlf, shown, first]
 | last first second next => simp [next, unit_crlf, shown, first, second]
 | both first second next further =>
  simp only [next, further, unit_crlf, test_shown (· == 0x3D) rfl]
  simp [shown, first, second]

/-- The kind of the token with carriage returns in what it holds. -/
def TokenKind.crlf : TokenKind -> TokenKind
 | .newLine .lineFeed => .newLine .carriageReturnLineFeed
 | .string flags escaped prefixLen => .string flags escaped.crlf prefixLen
 | .fStrMiddle flags escaped => .fStrMiddle flags escaped.crlf
 | kind => kind

/-- The word with its end moved. -/
def Scan.Word.crlf (text : Text) : Word -> Word
 | .known kind stop => .known kind.crlf (text.moved stop)
 | other => other

lemma opWord_crlf (text : Text) (pos : Nat) (inFStr : Bool) :
  opWord text.crlf (text.moved pos) inFStr = (opWord text pos inFStr).crlf text := by
 have moves {op : Op} {length : Nat} (found : opAt? text pos = some (op, length)) :
   text.moved pos + length = text.moved (pos + length) := by rw [(opAt?_solid found).2.moved]; omega
 unfold opWord
 rw [opAt?_crlf]
 dsimp only
 cases window text pos with
 | feed first =>
  have none : opAt? text pos = none := by simp [opAt?, first]
  simp [unit_crlf, shown, first, unitOf, none, Word.crlf]
 | last first _ next | both first _ next =>
  simp only [next, unit_crlf, test_shown (· == unitOf '!') rfl, test_shown (· == 0x3E) rfl,
   test_shown (· != 0x3D) rfl, test_shown (· == unitOf '-') rfl]
  split
  · rfl
  · split
    next arrow =>
     simp only [Bool.and_eq_true, beq_iff_eq] at arrow
     rw [Word.crlf, moved_next (by rw [arrow.2]; decide), <- next]
     rfl
    · cases found : opAt? text pos with
      | none => rfl
      | some sign => simp only [moves found]; rfl

lemma wordAt_crlf (text : Text) (pos : Nat) (inFStr : Bool) :
  wordAt text.crlf (text.moved pos) inFStr = (wordAt text pos inFStr).crlf text := by
 have ident := identEnd_solid text pos
 unfold wordAt
 rw [numAt_crlf, identEnd_crlf, opWord_crlf]
 cases numAt text pos with
 | found value imag stop => rfl
 | malformed digits => rfl
 | absent =>
  simp only [NumScan.crlf, unit_crlf, test_shown (· == unitOf '.') rfl, ident.slice_crlf, moved_lt_iff]
  split
  · cases window text pos with
    | feed first => simp_all [unitOf]
    | last first second next => simp [next, unit_crlf, shown, second, unitOf, Word.crlf, TokenKind.crlf]
    | both first second next further =>
     simp only [next, further, unit_crlf, test_shown (· == unitOf '.') rfl]
     split
     next dots =>
      simp only [Bool.and_eq_true, beq_iff_eq] at dots
      rw [Word.crlf, moved_next (by rw [dots.2]; decide), <- further]
      rfl
     · rfl
  · split
    · unfold identKind
      split <;> rfl
    · rfl

lemma invalidEnd_crlf (whole : text.Whole) (start : Nat) :
  invalidEnd text.crlf (text.moved start) = text.moved (invalidEnd text start) := by
 refine skipBy_crlf (fun pos inside => ?_) start
 dsimp only
 rw [unit_crlf, test_shown (fun unit => isBreak unit || isSpacing unit) rfl, test_shown isIdentSurrogate rfl]
 split
 · exact ⟨rfl, rfl⟩
 next word =>
  have first : text.unit pos ≠ 0x0A := fun feed => word (by simp [feed, isBreak])
  have next := moved_next first
  simp only [<- next, moved_size, moved_lt_iff, true_and]
  split
  next pair =>
   simp only [Bool.and_eq_true] at pair
   have second := whole pos pair.1
   rw [moved_next fun feed => by simp [feed, isBreak] at second, next]
  · exact next

lemma prefixLen?_crlf (text : Text) (pos : Nat) :
  prefixLen? text.crlf (text.moved pos) = prefixLen? text pos := by
 unfold prefixLen?
 cases window text pos with
 | feed first => simp [unit_crlf, shown, first, isQuote, isLetterOf, isPrefixPair, unitOf]
 | last first second next => simp [next, unit_crlf, shown, first, second, isQuote, isLetterOf, isPrefixPair, unitOf]
 | both first second next further =>
  simp only [next, further, unit_crlf, test_shown isQuote rfl]
  simp only [shown, if_neg first, if_neg second]

/-! ## Contents -/

variable (flags : StrFlags)
lemma quote_alike : ((0x0D : UInt16) == flags.quote) = ((0x0A : UInt16) == flags.quote) := by
 unfold StrFlags.quote
 split <;> rfl

lemma escapeMove_crlf (named : Bool) (first : text.unit pos ≠ 0x0A) :
  escapeMove text.crlf flags named (text.moved pos) = escapeMove text flags named pos := by
 unfold escapeMove
 cases window text pos with
 | feed feed => exact absurd feed first
 | last _ second next => simp [next, unit_crlf, shown, second, unitOf, isBreak]
 | both _ second next further =>
  simp only [next, further, unit_crlf, moved_size, moved_lt_iff, test_shown (· == 0x7B) rfl]
  simp only [shown, if_neg second]

lemma contentMove_crlf (inField inFormat named : Bool) (pos : Nat) :
  contentMove text.crlf flags inField inFormat named (text.moved pos) =
   contentMove text flags inField inFormat named pos := by
 unfold contentMove
 cases window text pos with
 | feed first => simp [unit_crlf, shown, first, moved_size, moved_le_iff, isBreak]
 | last first second next =>
  have other : ((0x0D : UInt16) == flags.quote) = false ∧ ((0x0A : UInt16) == flags.quote) = false := by
   unfold StrFlags.quote
   split <;> decide
  simp [next, unit_crlf, shown, first, second, escapeMove_crlf, moved_size, moved_le_iff, other]
 | both first second next further =>
  simp only [next, further, unit_crlf, moved_size, moved_le_iff, escapeMove_crlf _ _ first,
   test_shown (· == flags.quote) (quote_alike flags)]
  simp only [shown, if_neg first, if_neg second]

/-- A text of which each line ends with a line feed, none of them right behind the first half of a character. -/
structure Text.Fed (text : Text) : Prop where
 whole : text.Whole
 bare : (0x0D : UInt16) ∉ text

lemma Text.Fed.feed (fed : text.Fed) (broken : isBreak (text.unit pos)) : text.unit pos = 0x0A := by
 refine (isBreak_iff.mp broken).resolve_left fun returns => fed.bare ?_
 have inside := isBreak.lt_size broken
 simp only [Text.unit, Array.getD, inside, ↓reduceDIte] at returns
 exact returns ▸ Array.getElem_mem inside

lemma Text.Fed.lineBreak (fed : text.Fed) (broken : isBreak (text.unit pos)) :
  text.moved pos + breakLen text.crlf (text.moved pos) = text.moved (pos + breakLen text pos) := by
 have feed := fed.feed broken
 simp [breakLen, unit_crlf, unit_crlf_succ feed, moved_feed feed, feed, shown]

@[simp] lemma Scan.Content.endLine_named (content : Content) : content.endLine.named = content.named := by
 unfold endLine
 split <;> rfl

/-- The same place of the same content. -/
structure Scan.Content.Twin (text : Text) (content twin : Content) : Prop where
 pos : twin.pos = text.moved content.pos
 flags : twin.flags = content.flags
 named : twin.named = content.named

/-- The same end of the same content, which begins at `start`. -/
structure Scan.ContentEnd.Twin (text : Text) (start : Nat) (found twin : ContentEnd) : Prop where
 content : found.content.Twin text twin.content
 stop : twin.stop = text.moved found.stop
 after : start <= found.content.pos
 before : found.content.pos <= found.stop
 inside : found.content.pos <= text.size

lemma scanContent_go_crlf (fed : text.Fed) {first first' : Content} (same : first'.flags = first.flags)
  (inField inFormat : Bool) {fuel fuel' : Nat} {content twin : Content} (alike : content.Twin text twin)
  (inside : content.pos <= text.size) (enough : text.size < content.pos + fuel)
  (enough' : text.crlf.size < twin.pos + fuel') :
  (scanContent.go text inField inFormat first fuel content).Twin text content.pos
   (scanContent.go text.crlf inField inFormat first' fuel' twin) := by
 induction fuel generalizing fuel' content twin with
 | zero => omega
 | succ fuel ih =>
  obtain ⟨moved, flags, named⟩ := id alike
  cases fuel' with
  | zero =>
   rw [moved, moved_size, Nat.add_zero, moved_lt_iff] at enough'
   omega
  | succ fuel' =>
   have fits := contentMove_fits text first.flags inField inFormat content.named content.pos
   simp only [scanContent.go, same, moved, named, contentMove_crlf]
   revert fits
   cases contentMove text first.flags inField inFormat content.named content.pos with
   | pass length named =>
    rintro ⟨positive, solid⟩
    have further := solid.moved
    have rest := @ih fuel' { content with
      pos := content.pos + length, named := named
      flags.namedUnicodeEscape := content.flags.namedUnicodeEscape || named}
     { twin with
      pos := text.moved content.pos + length, named := named
      flags.namedUnicodeEscape := twin.flags.namedUnicodeEscape || named}
     ⟨by dsimp only; omega, by simp only [flags], rfl⟩ (solid.le_size inside) (by dsimp only; omega)
     (by dsimp only; omega)
    exact {rest with after := Nat.le_trans solid.le rest.after}
   | line skip =>
    rintro ⟨solid, broken⟩
    have further := solid.moved
    have passes := fed.lineBreak broken
    have positive := breakLen_pos text (content.pos + skip)
    have positive' := breakLen_pos text.crlf (text.moved (content.pos + skip))
    dsimp only
    rw [show text.moved content.pos + skip = text.moved (content.pos + skip) by omega]
    have rest := @ih fuel'
     {content with pos := content.pos + skip + breakLen text (content.pos + skip)}.endLine
     { twin with
      pos := text.moved (content.pos + skip) + breakLen text.crlf (text.moved (content.pos + skip))
      named := content.named}.endLine
     ⟨by simpa using passes, by simpa using flags, by simp⟩ (by simpa using breakLen_le broken)
     (by simp only [Content.endLine_pos]; omega) (by simp only [Content.endLine_pos]; omega)
    have after := rest.after
    rw [Content.endLine_pos] at after
    exact {rest with after := by dsimp only at after; omega}
   | unclosed => exact fun _ => ⟨⟨rfl, by simp only [flags], rfl⟩, rfl, Nat.le_refl _, Nat.le_refl _, inside⟩
   | field opens =>
    cases opens <;> exact fun _ => ⟨⟨rfl, by simp only [flags], rfl⟩, rfl, Nat.le_refl _, Nat.le_refl _, inside⟩
   | quote =>
    intro closes
    have solid := Closing.solid (.quote ⟨rfl, rfl, rfl⟩ closes : Closing text first.flags {content with flags := {}} _)
    exact ⟨alike, by rw [solid.moved]; dsimp only; omega, Nat.le_refl _, solid.le, inside⟩

lemma scanContent_crlf (fed : text.Fed) (inField inFormat : Bool) {content twin : Content}
  (alike : content.Twin text twin) (inside : content.pos <= text.size) :
  (scanContent text inField inFormat content).Twin text content.pos (scanContent text.crlf inField inFormat twin) :=
 scanContent_go_crlf fed alike.flags inField inFormat alike inside (by omega) (by omega)

lemma quoteFlags_crlf {length : Nat} (found : prefixLen? text pos = some length) :
  quoteFlags text.crlf (text.moved pos) length = quoteFlags text pos length := by
 have ⟨letters, quoted⟩ := prefixLen?_solid found
 have moves : text.moved pos + length = text.moved (pos + length) := by rw [letters.moved]; omega
 have other : ((0x0D : UInt16) == text.unit (pos + length)) = false ∧ ((0x0A : UInt16) == text.unit (pos + length)) = false := by
  constructor <;> refine beq_eq_false_iff_ne.mpr fun eq => ?_ <;> simp [<- eq, isQuote] at quoted
 have unbroken : text.unit (pos + length) ≠ 0x0A := fun eq => by simp [eq] at other
 have first : text.crlf.unit (text.moved (pos + length)) = text.unit (pos + length) := by
  rw [unit_crlf, shown, if_neg unbroken]
 have triple : (text.crlf.unit (text.moved (pos + length) + 1) == text.unit (pos + length) &&
   text.crlf.unit (text.moved (pos + length) + 2) == text.unit (pos + length)) =
   (text.unit (pos + length + 1) == text.unit (pos + length) &&
    text.unit (pos + length + 2) == text.unit (pos + length)) := by
  cases window text (pos + length) with
  | feed first => exact absurd first unbroken
  | last _ second next => simp [next, unit_crlf, shown, second, other]
  | both _ second next further =>
   simp only [next, further, unit_crlf, test_shown (· == text.unit (pos + length)) (other.1.trans other.2.symm)]
 simp only [quoteFlags, moves, letters.slice_crlf, first, triple]

end TypeChecker
