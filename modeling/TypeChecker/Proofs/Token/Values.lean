import TypeChecker.Proofs.Token.Outcome

/-! What tokens hold: the integers that literals denote, and what the quotes of a string enclose. -/

namespace TypeChecker
open Scan
variable {text : Text} {scan : Scan}

/-! ## Texts of one number -/

/-- The tokens at the end of a text without indents. -/
def endTokens (depth pos : Nat) : List Token :=
 (if depth = 0 then [⟨⟨pos, 0⟩, .newLine .implied, #[]⟩] else []) ++ [⟨⟨pos, 0⟩, .eof, #[]⟩]

lemma finish_toList (outside : scan.fStr = none) (flat : scan.indents = []) (silent : scan.cmts = #[])
  (unended : scan.endsWithNewLine = false) :
  (scan.finish text).tokens.toList = scan.tokens.toList ++ endTokens scan.depth scan.pos := by
 obtain ⟨_, line⟩ := endLine_frame (scan.closeTokens.push scan.pos 0 .eof)
 simp only [finish]
 rw [line]
 have closed : scan.closeFStrs = {scan with fStr := none, outers := []} := by
  simp [closeFStrs, outside]
 have unended : {scan with fStr := none, outers := [] : Scan}.endsWithNewLine = false := unended
 rw [closeTokens, closed]
 dsimp only
 rw [unended]
 by_cases level : scan.depth = 0
 · simp [level, setIndent, push, flat, silent, endTokens]
 · simp [level, setIndent, push, silent, endTokens, Nat.pos_of_ne_zero level]

/-- A text that starts with a digit and is read as one word. -/
lemma tokenize?_of_digit {kind : TokenKind} (digit : isDigitUnit (text.unit 0))
  (found : wordAt text 0 false = .known kind text.size) (depth : Nat) (cells : Bool) :
  ∃ result, tokenize? text {depth, cells} = .ok result ∧
   result.tokens.toList = ⟨⟨0, text.size⟩, kind, #[]⟩ :: endTokens depth text.size := by
 obtain ⟨unlaid, _, nonempty, _⟩ := wordAt_known found
 have stays : text.skipWhile isSpacing 0 = 0 := by
  rw [Text.skipWhile_eq text (by decide), if_neg]
  simp [isSpacing, ne_of_digit digit, isDigitUnit]
 let first : Scan := {pos := 0, cells, depth}
 have begins : start text depth cells = first := by
  simp [start, readIndent, stays, setIndent, indentOf, Text.slice, isBreak, Nat.ne_of_gt nonempty, first,
   ne_of_digit digit, isDigitUnit, unitOf]
 have ends : ended text depth cells = first.take text.size kind := by
  have reads : first.char text = first.take text.size kind := by
   have digit : isDigitUnit (text.unit first.pos) := digit
   rw [char_of_digit digit]
   simp [word, first, found]
  have steps : first.step text = first.take text.size kind := by
   rw [step, lead_of_literal?_eq_none rfl]
   simpa [first, stays, Nat.ne_of_gt nonempty] using reads
  rw [ended, begins, run_of_unread nonempty, steps]
  exact run_of_read (Nat.le_of_eq (Nat.zero_add _).symm) _
 rw [tokenize?_eq, ends]
 refine ⟨_, rfl, ?_⟩
 have last : (first.take text.size kind).endsWithNewLine = false := by
  cases kind <;> simp_all [endsWithNewLine, take, push, TokenKind.isLayout, Token.isNewLine]
 simp only [Scan.result]
 rw [finish_toList rfl rfl rfl last]
 simp [first, take, push]

/-! ## Integers -/

lemma le_maxExactInteger_iff {value : Nat} : value <= maxExactInteger ↔ value.log2 < 53 := by
 rcases Nat.eq_zero_or_pos value with rfl | positive
 · decide
 · rw [Nat.log2_lt (Nat.ne_of_gt positive), show maxExactInteger = 2 ^ 53 - 1 from rfl]
   omega

lemma nearest?_exact {value : Nat} (small : value <= maxExactInteger) : nearest? value = some value := by
 have log := le_maxExactInteger_iff.mp small
 simp [nearest?, show value.log2 - 52 = 0 by omega, Nat.mod_one, Nat.lt_trans log]

lemma nearest?_great {value near : Nat} (great : ¬ value <= maxExactInteger) (found : nearest? value = some near) :
  ¬ near <= maxExactInteger := by
 rw [le_maxExactInteger_iff, Nat.not_lt] at *
 have positive : value ≠ 0 := fun zero => by simp [zero] at great
 have low : 2 ^ 52 <= value / 2 ^ (value.log2 - 52) := by
  rw [Nat.le_div_iff_mul_le (Nat.two_pow_pos _), <- Nat.pow_add, Nat.add_sub_cancel' (by omega)]
  exact Nat.log2_self_le positive
 simp only [nearest?, Nat.one_shiftLeft, Option.ite_none_right_eq_some, Option.some.injEq] at found
 obtain ⟨_, eq⟩ := found
 have least : 2 ^ value.log2 <= near :=
  calc 2 ^ value.log2 = 2 ^ 52 * 2 ^ (value.log2 - 52) := by rw [<- Nat.pow_add, Nat.add_sub_cancel' (by omega)]
   _ <= near := eq ▸ Nat.mul_le_mul_right _ (by split <;> omega)
 exact Nat.le_trans great ((Nat.le_log2 (Nat.ne_of_gt (Nat.lt_of_lt_of_le (Nat.two_pow_pos _) least))).mpr least)

/-- An integer is kept as a double exactly if it is in the exact range, whichever number is asked. -/
lemma NumVal.ofNat_eq (isDecimal : Bool) (value : Nat) :
  ofNat isDecimal value = if value <= maxExactInteger then .plain value else .big value := by
 unfold ofNat
 split
 next near found =>
  by_cases small : value <= maxExactInteger
  · obtain rfl : value = near := Option.some.inj ((nearest?_exact small).symm.trans found)
    rw [ite_self]
  · have := nearest?_great small found
    rw [if_neg small, if_neg]
    split <;> assumption
 next none =>
  rw [if_neg fun small => ?_]
  simp [nearest?_exact small] at none

lemma digitsValue_filter (base : Nat) (digits : Text) :
  digitsValue base (digits.filter (· != 0x5F)) = digitsValue base digits := by
 have skips : (fun (value : Nat) (unit : UInt16) => if unit != 0x5F then
   if unit == 0x5F then value else base * value + digitValue unit else value) =
   fun value unit => if unit == 0x5F then value else base * value + digitValue unit := by
  funext value unit
  by_cases plain : unit = 0x5F <;> simp [plain]
 rw [digitsValue, Array.foldl_filter, skips]
 rfl

/-- A text of digits and underscores is a decimal integer, unless it has other digits behind a leading zero. -/
lemma numAt_decimal (starts : isDigitUnit (text.unit 0)) (all : ∀ unit ∈ text, isDecUnit unit)
  (zeros : text.unit 0 = 0x30 -> ∀ unit ∈ text, unit = 0x30 ∨ unit = 0x5F) :
  numAt text 0 = .found (.ofNat true (digitsValue 10 text)) false text.size := by
 have ends : text.unit text.size = 0 := Text.unit_of_size_le Nat.le.refl
 have last : scanNum.endsInteger 0 := by decide
 have integer : scanNum.integer text 0 text.size = .found (.ofNat true (digitsValue 10 text)) false text.size := by
  have digits : ((text.slice 0 text.size).filter (· != 0x5F)).all isDigitUnit := by
   simp only [Text.slice_zero_size, Array.all_eq_true_iff_forall_mem, Array.mem_filter]
   rintro unit ⟨mem, plain⟩
   simpa [isDecUnit, isDigitUnit, bne_iff_ne.mp plain] using all unit mem
  rw [scanNum.integer, if_pos digits, Text.slice_zero_size, digitsValue_filter, withImagMark, ends]
  rfl
 have reads : numAt text 0 = scanNum text 0 := if_pos <| by
  have decimal : isDecUnit (text.unit 0) := Bool.or_eq_true_iff.mpr (.inl starts)
  simp [decimal]
 rw [reads]
 by_cases zero : text.unit 0 = 0x30
 · have next : radixOf? (text.unit 1) = none := by
    rcases Nat.lt_or_ge 1 text.size with inside | outside
    · rcases zeros zero _ (Text.unit_mem inside) with eq | eq <;> rw [eq] <;> rfl
    · rw [Text.unit_of_size_le outside]
      rfl
   have stop : text.skipWhile (fun unit => unit == 0x30 || unit == 0x5F) 0 = text.size :=
    Text.skipWhile_eq_size rfl (Nat.zero_le _) (by simpa using zeros zero)
   simp [scanNum, next, scanNum.scanDecimal, zero, scanNum.isNonZeroDigit, stop, ends, last, integer]
 · have nonzero : scanNum.isNonZeroDigit (text.unit 0) := (isNonZeroDigit_eq zero).trans starts
   have stop : text.skipWhile isDecUnit 0 = text.size :=
    Text.skipWhile_eq_size rfl (Nat.zero_le _) (by simpa using all)
   simp [scanNum, zero, scanNum.scanDecimal, nonzero, stop, ends, last, integer]

lemma numAt_based {base : Nat} {test : UInt16 -> Bool} (zero : text.unit 0 = 0x30)
  (found : radixOf? (text.unit 1) = some (base, test)) (all : ∀ unit ∈ text.slice 2 text.size, test unit)
  {digit : UInt16} (mem : digit ∈ text.slice 2 text.size) (plain : digit ≠ 0x5F) :
  numAt text 0 = .found (.ofNat false (digitsValue base (text.slice 2 text.size))) false text.size := by
 have ends : test 0 = false := by
  unfold radixOf? at found
  repeat' split at found
  all_goals cases found <;> rfl
 obtain ⟨_, first, last, inside, _⟩ := Text.mem_slice.mp mem
 have stop : text.skipWhile test 2 = text.size := Text.skipWhile_eq_size ends (by omega) all
 have starts : test (text.unit 2) := all _ (Text.mem_slice.mpr ⟨2, Nat.le_refl _, by omega, by omega, rfl⟩)
 have digits : (text.slice 2 text.size).all (· == 0x5F) = false :=
  Array.all_eq_false'.mpr ⟨digit, mem, by simpa using plain⟩
 have reads : numAt text 0 = scanNum text 0 := by simp [numAt, isDecUnit, zero]
 simp [reads, scanNum, zero, found, starts, stop, digits]

/-- A digit as it is written: behind an underscore or not, and from ten on as a small letter or a capital one. -/
structure Digit where
 value : Nat
 (underscored capital : Bool)

namespace Digit
variable (digit : Digit)
def unit : UInt16 := .ofNat (digit.value + if digit.value < 10 then 0x30 else if digit.capital then 0x37 else 0x57)
def units : List UInt16 := (if digit.underscored then [0x5F] else []) ++ [digit.unit]

/-- The number that digits denote. -/
def number (base : Nat) (digits : List Digit) : Nat := digits.foldl (fun value digit => base * value + digit.value) 0

lemma unit_facts (below : digit.value < 16) : digitValue digit.unit = digit.value ∧ digit.unit ≠ 0x5F := by
 have all : ∀ value < 16, ∀ capital, digitValue (unit ⟨value, false, capital⟩) = value ∧
   unit ⟨value, false, capital⟩ ≠ 0x5F := by decide +kernel
 exact all digit.value below digit.capital

lemma digitsValue_units {digits : List Digit} (below : ∀ digit ∈ digits, digit.value < 16) (base : Nat) :
  digitsValue base (digits.flatMap units).toArray = number base digits := by
 suffices ∀ start, (digits.flatMap units).foldl
   (fun value unit => if unit == 0x5F then value else base * value + digitValue unit) start =
   digits.foldl (fun value digit => base * value + digit.value) start by
  simpa [digitsValue, number] using this 0
 induction digits with
 | nil => exact fun _ => rfl
 | cons digit digits ih =>
  intro start
  obtain ⟨value, plain⟩ := digit.unit_facts (below digit List.mem_cons_self)
  have own : digit.units.foldl
    (fun value unit => if unit == 0x5F then value else base * value + digitValue unit) start =
     base * start + digit.value := by
   unfold units
   split <;> simp [value, plain]
  rw [List.flatMap_cons, List.foldl_append, own, ih fun digit mem => below digit (.tail _ mem)]
  rfl

/-- The digits of a base pass a test for it. -/
def Suits (base : Nat) (test : UInt16 -> Bool) : Prop :=
 base <= 16 ∧ test 0x5F ∧ ∀ value < base, ∀ capital, test (unit ⟨value, false, capital⟩)

lemma Suits.all (suits : Suits base test) {digits : List Digit} (below : ∀ digit ∈ digits, digit.value < base) :
  ∀ unit ∈ digits.flatMap units, test unit := by
 intro unit mem
 obtain ⟨digit, inside, mem⟩ := List.mem_flatMap.mp mem
 have holds := suits.2.2 digit.value (below digit inside) digit.capital
 unfold units at mem
 split at mem <;> simp at mem
 · rcases mem with rfl | rfl
   · exact suits.2.1
   · exact holds
 · exact mem ▸ holds

end Digit

inductive Radix where
 | binary | octal | hexadecimal

namespace Radix

def base : Radix -> Nat
 | binary => 2
 | octal => 8
 | hexadecimal => 16

def letter : Radix -> Char
 | binary => 'b'
 | octal => 'o'
 | hexadecimal => 'x'

/-- The mark of a radix, as a small letter or a capital one. -/
def mark (radix : Radix) (capital : Bool) : UInt16 := unitOf (if capital then radix.letter.toUpper else radix.letter)

lemma radixOf?_mark (radix : Radix) (capital : Bool) :
  ∃ test, radixOf? (radix.mark capital) = some (radix.base, test) ∧ Digit.Suits radix.base test := by
 cases radix <;> cases capital <;> exact ⟨_, rfl, by unfold Digit.Suits; decide +kernel⟩

end Radix

/-- The integer literals: no digit but zeros follows a leading zero, unless a mark stands between. -/
inductive IntLit where
 | decimal (first : Fin 10) (rest : List Digit) (below : ∀ digit ∈ rest, digit.value < 10)
    (zeros : first = 0 -> ∀ digit ∈ rest, digit.value = 0)
 | marked (radix : Radix) (capital : Bool) (first : Digit) (rest : List Digit)
    (below : ∀ digit ∈ first :: rest, digit.value < radix.base)

namespace IntLit

def digits : IntLit -> List Digit
 | decimal first rest _ _ => ⟨first, false, false⟩ :: rest
 | marked _ _ first rest _ => first :: rest

def base : IntLit -> Nat
 | decimal .. => 10
 | marked radix .. => radix.base

variable (literal : IntLit)
lemma digits_below : ∀ digit ∈ literal.digits, digit.value < literal.base := by
 cases literal with
 | decimal first rest below zeros => exact List.forall_mem_cons.mpr ⟨first.isLt, below⟩
 | marked radix capital first rest below => exact below

lemma digits_small : ∀ digit ∈ literal.digits, digit.value < 16 := fun digit mem =>
 Nat.lt_of_lt_of_le (literal.digits_below digit mem) (by rcases literal with _ | ⟨_ | _ | _⟩ <;> simp [base, Radix.base])

/-- The integer that a literal denotes. -/
def value : Nat := Digit.number literal.base literal.digits

def mark : IntLit -> List UInt16
 | decimal .. => []
 | marked radix capital .. => [0x30, radix.mark capital]

def spelling : Text := (literal.mark ++ literal.digits.flatMap Digit.units).toArray

lemma spelling_digit : isDigitUnit (literal.spelling.unit 0) := by
 have digit : ∀ first : Fin 10, isDigitUnit (Digit.unit ⟨first, false, false⟩) := by decide
 cases literal with
 | decimal first => exact digit first
 | marked => rfl

lemma numAt_spelling : ∃ isDecimal,
  numAt literal.spelling 0 = .found (.ofNat isDecimal literal.value) false literal.spelling.size := by
 have number := Digit.digitsValue_units literal.digits_small literal.base
 have below := literal.digits_below
 cases literal with
 | decimal first rest small zeros =>
  have starts : ∀ first : Fin 10, Digit.unit ⟨first, false, false⟩ = 0x30 -> first = 0 := by decide
  have suits : Digit.Suits 10 isDecUnit := by
   unfold Digit.Suits
   decide +kernel
  refine ⟨true, (numAt_decimal ?_ ?_ ?_).trans ?_⟩
  · exact spelling_digit (decimal first rest small zeros)
  · simpa [spelling, mark] using suits.all below
  · intro zero
    -- In a literal that starts with a zero, all digits are those of base one.
    have single : ∀ digit ∈ digits (decimal first rest small zeros), digit.value < 1 := by
     have first := starts first zero
     simpa [digits, first] using zeros first
    have suits : Digit.Suits 1 fun unit => unit == 0x30 || unit == 0x5F := by
     unfold Digit.Suits
     decide +kernel
    simpa [spelling, mark] using suits.all single
  · exact congrArg (fun value => NumScan.found (.ofNat true value) false _) number
 | marked radix capital first rest small =>
  obtain ⟨test, found, suits⟩ := radix.radixOf?_mark capital
  let text := spelling (marked radix capital first rest small)
  have found : radixOf? (text.unit 1) = some (radix.base, test) := found
  have slice : text.slice 2 text.size = ((first :: rest).flatMap Digit.units).toArray := by
   simp only [text, spelling, mark, digits]
   generalize (first :: rest).flatMap Digit.units = units
   simp [Text.slice]
  have plain := (first.unit_facts (Nat.lt_of_lt_of_le (below first List.mem_cons_self) suits.1)).2
  refine ⟨false, (numAt_based rfl found ?_ ?_ plain).trans ?_⟩
  · rw [slice]
    exact fun unit mem => suits.all below unit (List.mem_toArray.mp mem)
  · rw [slice]
    simp [Digit.units]
  · rw [slice]
    exact congrArg (fun value => NumScan.found (.ofNat false value) false _) number

end IntLit

/-- A text that is one integer literal is read as one number, which is the integer that the literal denotes: as a
double exactly if it is in the range where these are exact. -/
theorem tokenize?_integer (literal : IntLit) (depth : Nat) (cells : Bool) :
  ∃ result, tokenize? literal.spelling {depth := depth, cells := cells} = .ok result ∧
   result.tokens.toList = ⟨⟨0, literal.spelling.size⟩, .number
    (if literal.value <= maxExactInteger then .plain literal.value else .big literal.value) false, #[]⟩ ::
     endTokens depth literal.spelling.size := by
 obtain ⟨isDecimal, scanned⟩ := literal.numAt_spelling
 have found : wordAt literal.spelling 0 false =
   .known (.number (.ofNat isDecimal literal.value) false) literal.spelling.size := by
  rw [wordAt, scanned]
 rw [← NumVal.ofNat_eq isDecimal]
 exact tokenize?_of_digit literal.spelling_digit found depth cells

/-! ## Strings -/

/-- The span that is told for the value of a string leaves out the letters before the quote: the value starts behind as
many units of it. -/
theorem tokenize?_valueSpan {depth : Nat} {cells : Bool} {result : TokenizedText} {token : Token}
  {flags : StrFlags} {escaped : Text} {prefixLen : Nat}
  (ok : tokenize? text {depth := depth, cells := cells} = .ok result) (mem : token ∈ result.tokens)
  (kind : token.kind = .string flags escaped prefixLen) :
  ∃ span, token.valueSpan? = some span ∧ text.slice (span.start + prefixLen) span.stop = escaped ∧
   (text.slice span.start span.stop = escaped ↔ prefixLen = 0) := by
 have laid := tokenize?_laid ok
 have inside := laid.behind token mem
 have fits := laid.fits token mem
 rw [kind] at fits
 obtain ⟨last, first, ends, rfl⟩ := fits
 have stop : token.start + flags.quoteLen + (token.span.length - flags.quoteLen -
   if flags.unclosed then 0 else flags.quoteLen) = last := by
  simp only [Token.stop, Span.stop, Token.start] at *
  omega
 refine ⟨⟨token.start + flags.quoteLen, _⟩, by rw [Token.valueSpan?, kind], ?_, fun eq => ?_, ?_⟩
 · rw [Span.stop, stop, Nat.add_right_comm]
 · have size := congrArg Array.size eq
   simp only [Span.stop, stop, Text.slice, Array.size_extract] at size
   omega
 · rintro rfl
   rw [Span.stop, stop, Nat.add_zero]

theorem tokenize?_valueSpan_raw : ∃ result, tokenize? #[0x72, 0x22, 0x61, 0x22] {} = .ok result ∧
  ∃ token ∈ result.tokens, ∃ flags escaped len span, token.kind = .string flags escaped len ∧
   token.valueSpan? = some span ∧ Text.slice #[0x72, 0x22, 0x61, 0x22] (span.start + len) span.stop = escaped := by
 obtain ⟨result, ok, found⟩ : ∃ result, tokenize? #[0x72, 0x22, 0x61, 0x22] {} = .ok result ∧
   result.tokens.any (·.valueSpan?.isSome) = true := exists_ok_of_map (by decide +kernel)
 obtain ⟨token, mem, told⟩ := Array.any_eq_true'.mp found
 unfold Token.valueSpan? at told
 split at told
 next kind =>
  obtain ⟨span, told, holds, _⟩ := tokenize?_valueSpan ok mem kind
  exact ⟨result, ok, token, mem, _, _, _, span, kind, told, holds⟩
 · cases told

end TypeChecker
