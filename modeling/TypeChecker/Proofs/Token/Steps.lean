import TypeChecker.Proofs.Token.Levels

/-! What one step of the scanner can do. Nearly every reading advances: it walks over the text, lays
tokens and keeps the rest. Three readings do not: a notebook magic passes over line ends, a quote that
closes an f-string from inside a field is walked over and left, and digits that form no number end the
run. -/

namespace TypeChecker.Scan
variable {text : Text} {scan next : Scan} {length : Nat}
/-- The read position and the lines recorded so far. -/
def mark (scan : Scan) : Content := scan.contentAt scan.pos {}
def Laid (scan : Scan) (text : Text) : Prop := Cover text scan.cells scan.tokens scan.cmts scan.pos

/-- No comment or magic is announced at the read position. -/
def Bare (scan : Scan) (text : Text) : Prop :=
 scan.Laid text -> remarkAt? text scan.cells scan.tokens scan.pos = none

lemma Bare.of_unit (plain : isMark (text.unit scan.pos) = false) : scan.Bare text := fun _ => remarkAt?_eq_none plain

lemma startsLine_eq (laid : scan.Laid text) : startsLine scan.tokens scan.pos = scan.atLineStart := by
 rw [startsLine, Array.filter_eq_self.mpr fun token mem => decide_eq_true (laid.behind token mem), atLineStart]

lemma Bare.of_magic? (plain : ¬ (text.unit scan.pos == unitOf '#')) (hit : scan.magic? text = none) :
  scan.Bare text := by
 intro laid
 unfold remarkAt?
 unfold magic? at hit
 dsimp only at hit ⊢
 split at hit
 · contradiction
 next unmarked => rw [if_neg plain, startsLine_eq laid, if_neg unmarked]

def Adds (tokens more : Array Token) : Prop := tokens.toList <+: more.toList

namespace Adds
variable {tokens more last : Array Token}
lemma refl : Adds tokens tokens := List.prefix_rfl

lemma push (adds : Adds tokens more) {token : Token} : Adds tokens (more.push token) :=
 List.IsPrefix.trans adds (by simp)

lemma trans (adds : Adds tokens more) (again : Adds more last) : Adds tokens last := List.IsPrefix.trans adds again

end Adds

/-- No open f-string has met an end. -/
def Fresh (scan : Scan) : Prop := ∀ fStr, scan.fStr = some fStr ∨ fStr ∈ scan.outers -> fStr.flags.Fresh

/-- The open f-strings, the innermost first. -/
def fStrs (scan : Scan) : List FStrCtx := scan.fStr.toList ++ scan.outers
def fStrStarts (tokens : Array Token) : Nat := tokens.countP (·.kind matches .fStrStart ..)

/-- What a reading does to the open f-strings. -/
inductive Turn (text : Text) (scan next : Scan) : Prop where
 | kept (fStr : next.fStr = scan.fStr) (outer : next.outers = scan.outers)
 | begun {flags : StrFlags} (fresh : flags.Fresh) (fStr : next.fStr = some {flags})
    (outer : next.outers = scan.fStrs) (depth : next.depth = scan.depth)
    (starts : fStrStarts scan.tokens < fStrStarts next.tokens)
 | ended (literal : scan.literal?.isSome) (fStr : next.fStr = scan.outers.head?)
    (outer : next.outers = scan.outers.tail)
 | braced (brace : text.unit scan.pos = 0x7B ∨ text.unit scan.pos = 0x7D)
    (flags : next.fStr.map (·.flags) = scan.fStr.map (·.flags))
    (outer : next.outers = scan.outers)
 | specified {fStr : FStrCtx} {field : FieldCtx} (active : scan.fStr = some fStr)
    (within : fStr.field = some field) (level : field.depth = scan.depth)
    (changed : next.fStr = some {fStr with field := some {field with inFormat := true}})
    (outer : next.outers = scan.outers) (depth : next.depth = scan.depth)

/-- What a reading does that neither fails nor moves the read position on its own. -/
structure Advance (text : Text) (scan next : Scan) : Prop where
 le : scan.pos <= next.pos
 walk : text.Paired -> Walk text scan.mark next.mark
 laid : scan.Laid text -> next.Laid text
 nested : scan.Nested text -> next.Nested text
 adds : Adds scan.tokens next.tokens
 failure : next.failure = scan.failure
 cells : next.cells = scan.cells
 turn : Turn text scan next
 /-- A new line starts only behind a line break. -/
 calm : text.Solid scan.pos next.pos -> next.atLineStart -> scan.atLineStart

structure Fwd (text : Text) (scan next : Scan) : Prop extends Advance text scan next where
 lt : scan.pos < next.pos

namespace Advance

/-- Moves on within a line. -/
lemma pass {stop : Nat} (further : scan.pos <= stop)
  (spare : ∀ off, scan.pos <= off -> off < stop -> off < text.size ∧
   isBreak (text.unit off) = false ∧ Spare text (fun _ => False) off) :
  Advance text scan {scan with pos := stop} := by
 have solid : text.Solid scan.pos stop :=
  ⟨further, fun _ first last => (spare _ first last).1, fun _ first last => (spare _ first last).2.1⟩
 exact {
  le := further
  walk := fun _ => Walk.here.pass solid rfl rfl
  laid := fun laid => laid.pass further (solid.le_size laid.inside)
   fun _ first last => (spare _ first last).2.2.mono fun _ => False.elim
  nested := id
  adds := .refl
  failure := rfl
  cells := rfl
  turn := .kept rfl rfl
  calm := fun _ => id}

/-- Adds a word. -/
lemma take {kind : TokenKind} {depth : Nat} {fStr : Option FStrCtx}
  {outer : List FStrCtx} (inside : scan.pos + length <= text.size)
  (solid : text.Paired -> text.Solid scan.pos (scan.pos + length))
  (word : kind.isLayout = false) (bare : scan.Bare text)
  (turn : Turn text scan {scan.take length kind with depth := depth, fStr, outers := outer})
  (fits : kind.Fits text scan.pos (scan.pos + length) := by trivial) :
  Advance text scan {scan.take length kind with depth := depth, fStr, outers := outer} where
 le := Nat.le_add_right _ _
 walk := fun paired => Walk.here.pass (solid paired) rfl rfl
 laid := fun laid => laid.push kind Array.append_empty rfl rfl inside (fun _ _ => bare laid) fits
 nested := fun nested => nested.word (by revert word; cases kind <;> simp [TokenKind.isLayout])
 adds := Adds.refl.push
 failure := rfl
 cells := rfl
 turn
 calm := fun _ layout => by simp [atLineStart, Scan.take, push, Token.isLayout, word] at layout

lemma fresh (advance : Advance text scan next) (fresh : scan.Fresh) : next.Fresh := by
 intro hit mem
 cases advance.turn with
 | kept fStr outer => exact fresh hit (by rwa [fStr, outer] at mem)
 | begun new fStr outer =>
  rw [fStr, outer, fStrs, List.mem_append, Option.mem_toList] at mem
  rcases mem with eq | mem
  · exact Option.some.inj eq ▸ new
  · exact fresh hit mem
 | ended _ fStr outer =>
  rw [fStr, outer] at mem
  exact fresh hit (.inr (mem.elim List.mem_of_head? List.mem_of_mem_tail))
 | braced _ flags outer =>
  rw [outer] at mem
  refine mem.elim (fun active => ?_) fun mem => fresh hit (.inr mem)
  rw [active] at flags
  obtain ⟨old, active, same⟩ := Option.map_eq_some_iff.mp flags.symm
  have same : old.flags = hit.flags := same
  exact same ▸ fresh old (.inl active)
 | specified active _ _ changed outer =>
  rw [changed, outer] at mem
  rcases mem with eq | mem
  · obtain rfl := Option.some.inj eq
    exact (fresh _ (.inl active) :)
  · exact fresh hit (.inr mem)

end Advance

/-! ## Indents and line breaks -/

lemma tab1_le (blanks : Text) : (indentOf blanks).tab1 <= blanks.size := by
 have widens (units : List UInt16) (info : IndentInfo) :
   (units.foldl IndentInfo.add info).tab1 <= info.tab1 + units.length := by
  induction units generalizing info with
  | nil => exact Nat.le_refl _
  | cons unit units ih =>
   have rest := ih (info.add unit)
   have one : (info.add unit).tab1 <= info.tab1 + 1 := by
    unfold IndentInfo.add
    repeat' split
    all_goals simp
   simp only [List.foldl_cons, List.length_cons]
   omega
 simpa [indentOf, <- Array.foldl_toList] using widens blanks.toList ⟨0, 0, false, false⟩

private theorem closeIndents_go (scan : Scan) (amount : Nat) (indents : List IndentInfo) (ambiguous : Bool) :
  ∃ tokens cmts rest, closeIndents.go amount scan indents ambiguous =
    {scan with tokens := tokens, cmts, indents := rest} ∧
   Adds scan.tokens tokens ∧
   ∀ {text cells}, Cover text cells scan.tokens scan.cmts scan.pos ->
    Cover text cells tokens cmts scan.pos := by
 induction indents generalizing scan ambiguous with
 | nil => exact ⟨_, _, _, rfl, .refl, id⟩
 | cons info outer ih =>
  simp only [closeIndents.go]
  split
  · split
    · exact ⟨_, _, _, rfl, Adds.refl.push, fun laid => laid.empty _ Array.append_empty⟩
    · exact (ih _ false).imp fun _ => Exists.imp fun _ => Exists.imp fun _ hit =>
       ⟨hit.1, Adds.refl.push.trans hit.2.1, fun laid => hit.2.2 (laid.empty _ Array.append_empty)⟩
  · exact ⟨_, _, _, rfl, .refl, id⟩

/-- Setting an indent touches the tokens and the open levels only. -/
lemma setIndent_frame (scan : Scan) (start : Nat) (info : IndentInfo) :
  ∃ tokens cmts indents count tabs spaces, scan.setIndent start info =
    { scan with
     tokens, cmts, indents, indentCount := count
     indentTabCount := tabs, indentSpacesTotal := spaces} ∧
   Adds scan.tokens tokens ∧
   ∀ {text cells}, Cover text cells scan.tokens scan.cmts start ->
    Blank text start scan.pos -> start + info.tab1 <= scan.pos ->
    Cover text cells tokens cmts scan.pos := by
 have indents (ambiguous : Bool) {text cells}
   (laid : Cover text cells scan.tokens scan.cmts start)
   (blank : Blank text start scan.pos) (columns : start + info.tab1 <= scan.pos) :
   Cover text cells (scan.tokens.push
    ⟨⟨start, info.tab1⟩, .indent info.tab8 ambiguous, scan.cmts⟩) #[] scan.pos :=
  have inside := blank.solid.le_size laid.inside
  (laid.push _ Array.append_empty rfl rfl (Nat.le_trans columns inside) fun wide _ => remarkAt?_eq_none
   (isMark_eq_false isSpacing (by decide) (blank.spacing _ Nat.le.refl (by omega)))).blank
   ⟨columns, fun _ first last => blank.spacing _ (by omega) last⟩
 unfold setIndent
 split
 · exact ⟨_, _, _, _, _, _, rfl, .refl, fun laid blank _ => laid.blank blank⟩
 · split
   · split
     · exact ⟨_, _, _, _, _, _, rfl, Adds.refl.push, indents false⟩
     · exact ⟨_, _, _, _, _, _, rfl, .refl, fun laid blank _ => laid.blank blank⟩
   · dsimp only
     split
     · exact ⟨_, _, _, _, _, _, rfl, Adds.refl.push, indents _⟩
     · split
       · split
         · exact ⟨_, _, _, _, _, _, rfl, Adds.refl.push, indents true⟩
         · exact ⟨_, _, _, _, _, _, rfl, .refl, fun laid blank _ => laid.blank blank⟩
       · obtain ⟨tokens, cmts, rest, eq, adds, keeps⟩ := closeIndents_go scan info.tab8 scan.indents _
         exact ⟨_, _, _, _, _, _, eq, adds, fun laid blank _ => keeps (laid.blank blank)⟩

/-- Reading an indent moves over blanks and adds layout tokens. -/
lemma readIndent_frame (scan : Scan) (text : Text) :
  ∃ tokens cmts indents count tabs spaces, scan.readIndent text =
    { scan with
     pos := text.skipWhile isSpacing scan.pos
     tokens, cmts, indents, indentCount := count
     indentTabCount := tabs, indentSpacesTotal := spaces} ∧
   (scan.Laid text -> Cover text scan.cells tokens cmts
    (text.skipWhile isSpacing scan.pos)) ∧ Adds scan.tokens tokens := by
 have blank := Blank.skipWhile text scan.pos
 unfold readIndent
 dsimp only
 split
 · exact ⟨_, _, _, _, _, _, rfl, fun laid => laid.blank blank, .refl⟩
 · obtain ⟨tokens, cmts, indents, count, tabs, spaces, eq, adds, keeps⟩ :=
    setIndent_frame {scan with pos := text.skipWhile isSpacing scan.pos} scan.pos
     (indentOf (text.slice scan.pos (text.skipWhile isSpacing scan.pos)))
   refine ⟨_, _, _, _, _, _, eq, fun laid => keeps laid blank ?_, adds⟩
   have columns := tab1_le (text.slice scan.pos (text.skipWhile isSpacing scan.pos))
   simp only [Text.slice, Array.size_extract] at columns ⊢
   have := blank.le
   omega

lemma mark_endLine (scan : Scan) : scan.endLine.mark = scan.mark.endLine := by
 unfold endLine Content.endLine mark contentAt
 dsimp only
 split <;> rfl

lemma endLine_frame (scan : Scan) :
  ∃ lines, scan.endLine = {scan with lines := lines, lineStart := scan.pos} := by
 unfold endLine
 split
 · exact ⟨_, rfl⟩
 · exact ⟨_, rfl⟩

/-- Passes a line break: the line is recorded and the indent behind it may be read. -/
lemma Advance.line (last : Scan) (skip : Nat) (broken : isBreak (text.unit (scan.pos + skip)))
  (solid : text.Solid scan.pos (scan.pos + skip))
  (mark : last.mark = {scan.mark with pos := scan.pos + skip + breakLen text (scan.pos + skip)})
  (laid : scan.Laid text -> last.Laid text) (nested : scan.Nested text -> last.Nested text)
  (adds : Adds scan.tokens last.tokens) (failure : last.failure = scan.failure)
  (cells : last.cells = scan.cells)
  (kept : last.fStr = scan.fStr ∧ last.outers = scan.outers) :
  Fwd text scan last.endLine ∧ Fwd text scan (last.endLine.readIndent text) := by
 have mid : Walk text scan.mark {scan.mark with pos := scan.pos + skip} := Walk.here.pass solid rfl rfl
 have walk : Walk text scan.mark last.endLine.mark := by
  rw [mark_endLine, mark]
  exact mid.line broken
 have further : scan.pos + skip < last.pos := by
  have := breakLen_pos text (scan.pos + skip)
  have : last.pos = _ := congrArg Content.pos mark
  dsimp only at this
  omega
 have stops {stop : Nat} (behind : last.pos <= stop) : ¬ text.Solid scan.pos stop := fun whole => by
  have := whole.unbroken (scan.pos + skip) (by omega) (by omega)
  simp [broken] at this
 have first : startOfLine text last.pos = last.pos := by
  have : last.pos = _ := congrArg Content.pos mark
  obtain ⟨before, eq⟩ := Nat.exists_eq_succ_of_ne_zero (Nat.ne_zero_of_lt further)
  rw [eq, startOfLine, if_pos (isBreak.of_lt broken (by omega) (by dsimp only at this; omega))]
 obtain ⟨lines, ended⟩ := last.endLine_frame
 obtain ⟨tokens, cmts, indents, _, _, _, indented, keeps, more⟩ := last.endLine.readIndent_frame text
 have blank := Blank.skipWhile text last.endLine.pos
 have levels := readIndent_nested last.endLine text
 rw [indented] at levels ⊢
 rw [ended] at walk keeps blank levels more ⊢
 have lt : scan.pos < last.pos := by omega
 have lt' : scan.pos < text.skipWhile isSpacing last.pos := Nat.lt_of_lt_of_le lt blank.le
 exact ⟨⟨⟨Nat.le_of_lt lt, fun _ => walk, laid, nested, adds, failure, cells, .kept kept.1 kept.2,
   fun whole => absurd whole (stops Nat.le.refl)⟩, lt⟩,
  ⟨⟨Nat.le_of_lt lt', fun _ => walk.pass blank.solid rfl rfl, fun before => keeps (laid before),
   fun before => levels (nested before) first, adds.trans more, failure, cells, .kept kept.1 kept.2,
   fun whole => absurd whole (stops blank.le)⟩, lt'⟩⟩

lemma newLine_fwd (broken : isBreak (text.unit scan.pos)) : Fwd text scan (scan.newLine text) := by
 have length := breakLen_le broken
 unfold newLine
 dsimp only
 refine (Advance.line _ 0 broken (Text.Solid.refl _) ?_ ?_ ?_ ?_ ?_ ?_ ?_).2
 all_goals split
 · rfl
 · rfl
 · exact fun laid => laid.push _ Array.append_empty rfl rfl length
    fun _ _ => remarkAt?_eq_none (isMark_eq_false isBreak (by decide) broken)
 · exact fun laid => laid.pass (Nat.le_add_right _ _) length
    fun _ first last => .lineBreak (isBreak.of_lt broken first last)
 · exact fun nested => nested.word rfl
 · exact id
 · exact Adds.refl.push
 · exact .refl
 · rfl
 · rfl
 · rfl
 · rfl
 · exact ⟨rfl, rfl⟩
 · exact ⟨rfl, rfl⟩

/-! ## Words and comments -/

lemma invalid_fwd (inside : scan.pos < text.size) (word : isBreak (text.unit scan.pos) = false)
  (bare : scan.Bare text) : Fwd text scan (scan.invalid text) := by
 have bounds := invalidEnd_bounds (Nat.le_of_lt inside)
 unfold invalid
 dsimp only
 split
 next nonempty =>
  have stop : scan.pos + (invalidEnd text scan.pos - scan.pos) = invalidEnd text scan.pos := by omega
  refine ⟨Advance.take (by omega) (fun paired => ?_) rfl bare (.kept rfl rfl), ?_⟩
  · rw [stop]
    exact invalidEnd_solid paired.whole scan.pos
  · simp only [take]
    omega
 next empty =>
  have spacing := (layout_of_invalidEnd_le inside (by omega)).resolve_left (by simp [word])
  refine ⟨Advance.pass (by omega) fun pos first last => ?_, Nat.lt_succ_self _⟩
  obtain rfl : pos = scan.pos := by omega
  exact ⟨inside, word, .spacing spacing⟩

lemma continuation_fwd (backslash : text.unit scan.pos = 0x5C) : Fwd text scan (scan.continuation text) := by
 have solid : text.Solid scan.pos (scan.pos + 1) := .unit (show Plain (· == 0x5C) by decide) (by simp [backslash])
 unfold continuation
 split
 next broken =>
  have length := breakLen_le broken
  have both := Advance.line
   {scan with pos := scan.pos + 1 + breakLen text (scan.pos + 1)} 1 broken solid rfl
   (fun laid => laid.pass (by dsimp only; omega) length fun off first last => by
    rcases Nat.eq_or_lt_of_le first with eq | after
    · subst eq
      exact .continuation backslash broken
    · exact .lineBreak (isBreak.of_lt broken after last)) id .refl rfl rfl ⟨rfl, rfl⟩
  dsimp only
  split
  · exact both.2
  · exact both.1
 · exact invalid_fwd (solid.inside _ Nat.le.refl (Nat.lt_succ_self _)) (by rw [backslash]; decide)
    (.of_unit (by rw [backslash]; decide))

lemma cmt_frame (scan : Scan) (text : Text) : ∃ all typeLines ruleLines, scan.cmt text =
  { scan with typeIgnoreAll := all, typeIgnoreLines := typeLines, ruleIgnoreLines := ruleLines
    }.addCmt text (scan.pos + 1) (text.skipWhile (fun unit => !isBreak unit) (scan.pos + 1)) .regular := by
 unfold cmt
 dsimp only
 repeat' split
 all_goals exact ⟨_, _, _, rfl⟩

lemma cmt_fwd (sharp : text.unit scan.pos = unitOf '#') : Fwd text scan (scan.cmt text) := by
 have first : text.Solid scan.pos (scan.pos + 1) := .unit (show Plain (· == unitOf '#') by decide) (by simp [sharp])
 have rest : text.Solid (scan.pos + 1)
   (text.skipWhile (fun unit => !isBreak unit) (scan.pos + 1)) :=
  .skipWhile text (by simp) _
 have solid := first.append rest
 obtain ⟨_, _, _, eq⟩ := scan.cmt_frame text
 rw [eq]
 refine ⟨⟨solid.le, fun _ => Walk.here.pass solid rfl rfl, fun laid => ?_, id, .refl, rfl, rfl, .kept rfl rfl,
  fun _ => id⟩, rest.le⟩
 have laid := Cover.cmt laid (show remarkAt? _ _ _ _ = _ from if_pos (beq_iff_eq.mpr sharp))
 rwa [show (Cmt.announced _ _ _ _).span.stop = _ from Nat.add_sub_cancel' rest.le] at laid

lemma word_fwd (inside : scan.pos < text.size)
  (unbroken : isBreak (text.unit scan.pos) = false) (bare : scan.Bare text) :
  Fwd text scan (scan.word text) ∨ ∃ digits, numAt text scan.pos = .malformed digits ∧
   scan.word text = {scan with pos := text.size, failure := some (.badInteger digits)} := by
 unfold word
 cases hit : wordAt text scan.pos scan.fStr.isSome with
 | known kind stop =>
  have ⟨plain, fits, nonempty, solid⟩ := wordAt_known hit
  have ends : scan.pos + (stop - scan.pos) = stop := by omega
  refine .inl ⟨Advance.take ?_ (fun _ => ?_) plain bare (.kept rfl rfl) (by rwa [ends]), ?_⟩
  · rw [ends]
    exact solid.le_size (Nat.le_of_lt inside)
  · rwa [ends]
  · simp only [take]
    omega
 | malformed digits => exact .inr ⟨digits, wordAt_malformed hit, rfl⟩
 | unknown => exact .inl (invalid_fwd inside unbroken bare)

/-! ## Strings -/

/-- The quote at the read position closes a replacement field of the f-string around it. -/
structure Abandons (scan : Scan) (text : Text) (fStr : FStrCtx) (field : FieldCtx) : Prop where
 starts : prefixLen? text scan.pos = some 0
 closes : scan.closedField? (quoteFlags text scan.pos 0)
  (scan.strContent text 0).content.flags.unclosed = some (fStr, field)

lemma strContent_closing {prefixLen : Nat} (inside : scan.pos <= text.size)
  (starts : prefixLen? text scan.pos = some prefixLen) :
  let flags := quoteFlags text scan.pos prefixLen
  let hit := scan.strContent text prefixLen
  text.Solid scan.pos (scan.pos + (prefixLen + flags.quoteLen)) ∧ 0 < flags.quoteLen ∧
  Walk text scan.mark hit.content ∧ scan.pos + (prefixLen + flags.quoteLen) <= hit.content.pos ∧
  hit.content.flags.quoteLen = flags.quoteLen ∧
  ∃ length, hit.stop = hit.content.pos + length ∧ Closing text flags hit.content length := by
 have ⟨letters, quoted⟩ := prefixLen?_solid starts
 have solid := quoteFlags_solid letters quoted
 rw [Nat.add_assoc] at solid
 have positive : 0 < (quoteFlags text scan.pos prefixLen).quoteLen := by
  unfold StrFlags.quoteLen
  split <;> decide
 have opening : Walk text scan.mark (scan.contentAt (scan.pos + (prefixLen +
   (quoteFlags text scan.pos prefixLen).quoteLen)) (quoteFlags text scan.pos prefixLen)) :=
  Walk.here.pass solid rfl rfl
 have ⟨walk, same, closing⟩ := scanContent_closing (scan.fStr.any (·.field.isSome)) false _
  (opening.le_size inside) ⟨rfl, rfl, rfl⟩
 simp only [strContent, Nat.add_assoc]
 exact ⟨solid, positive, opening.trans walk, walk.le, same, closing⟩

lemma string_reads {prefixLen : Nat} (inside : scan.pos <= text.size)
  (starts : prefixLen? text scan.pos = some prefixLen) :
  Fwd text scan (scan.string text prefixLen) ∨
  ∃ fStr field singles doubles, scan.Abandons text fStr field ∧
   scan.string text prefixLen =
    { scan with
     lines := (scan.strContent text 0).content.lines
     lineStart := (scan.strContent text 0).content.lineStart
     singleQuoteCount := singles, doubleQuoteCount := doubles}.abandonFields fStr field := by
 obtain ⟨solid, positive, walk, further, same, length, stop, closing⟩ := strContent_closing inside starts
 have bare : scan.Bare text := .of_unit (isMark_of_prefixLen? starts)
 unfold string
 dsimp only
 split
 · rw [Nat.add_assoc, Nat.add_sub_cancel_left]
   refine .inl ⟨Advance.take (solid.le_size inside) (fun _ => solid) rfl bare
    (.begun ⟨rfl, rfl, rfl⟩ rfl ?_ rfl (by simp [fStrStarts, take, push])), ?_⟩
   · unfold fStrs
     cases scan.fStr <;> rfl
   · simp only [take]
     omega
 next plain =>
  split
  next fStr field closed =>
   split at closed
   next bare =>
    subst bare
    exact .inr ⟨fStr, field, _, _, ⟨starts, closed⟩, rfl⟩
   · contradiction
  · have last := closing.solid.le_size (walk.le_size inside)
    have lt : scan.pos < (scan.strContent text prefixLen).stop := by omega
    have ends : scan.pos + ((scan.strContent text prefixLen).stop - scan.pos) =
      (scan.strContent text prefixLen).stop := by omega
    refine .inl ⟨⟨Nat.le_of_lt lt, fun _ => walk.pass (stop ▸ closing.solid) rfl rfl, fun laid => ?_,
     fun nested => nested.word rfl, Adds.refl.push, rfl, rfl, .kept rfl rfl, fun _ layout => ?_⟩, lt⟩
    · refine laid.push _ Array.append_empty rfl ends (stop ▸ last) (fun _ _ => bare laid) ⟨_, ?_, ?_, by rw [same]⟩
      · rw [same, Nat.add_assoc]
        exact further
      · rw [same, <- closing.length_eq plain, stop]
        rfl
    · simp [atLineStart, push, Token.isLayout, TokenKind.isLayout] at layout

/-! ## Signs -/

lemma toNat_of_char {unit : UInt16} {char : Char} (reads : Char.ofNat unit.toNat = char)
  (nonzero : char ≠ Char.ofNat 0) : unit.toNat = char.toNat := by
 subst reads
 by_cases valid : unit.toNat.isValidChar
 · rw [Char.ofNat, dif_pos valid]
   rfl
 · exact absurd (by rw [Char.ofNat, dif_neg valid]; rfl) nonzero

/-- A unit that reads as a character other than a line break or the zero character. -/
lemma solid_of_char {pos : Nat} {char : Char} (reads : Char.ofNat (text.unit pos).toNat = char)
  (plain : char ≠ Char.ofNat 0 ∧ char ≠ '\r' ∧ char ≠ '\n') : text.Solid pos (pos + 1) := by
 subst reads
 apply Text.Solid.of_unit
 · exact Text.lt_size_of_unit_ne fun zero => plain.1 (by rw [zero]; rfl)
 · cases broken : isBreak (text.unit pos) with
   | false => rfl
   | true =>
    rcases isBreak_iff.mp broken with eq | eq
    · exact absurd (by rw [eq]; rfl) plain.2.1
    · exact absurd (by rw [eq]; rfl) plain.2.2

/-- Adds a sign, which may change the depth and the field of the f-string. -/
lemma Fwd.sign {kind : TokenKind} {depth : Nat} {fStr : Option FStrCtx} (inside : scan.pos <= text.size)
  (solid : text.Solid scan.pos (scan.pos + length)) (positive : 0 < length) (word : kind.isLayout = false)
  (bare : scan.Bare text)
  (turn : Turn text scan {scan.take length kind with depth := depth, fStr})
  (fits : kind.Fits text scan.pos (scan.pos + length) := by trivial) :
  Fwd text scan {scan.take length kind with depth := depth, fStr} :=
 ⟨Advance.take (solid.le_size inside) (fun _ => solid) word bare turn fits, by simp only [take]; omega⟩

lemma atFieldDepth_iff : scan.atFieldDepth ↔
  ∃ fStr field, scan.fStr = some fStr ∧ fStr.field = some field ∧ field.depth = scan.depth := by
 unfold atFieldDepth
 cases scan.fStr with
 | none => simp
 | some fStr => simp [Option.any_eq_true]

section
variable (inside : scan.pos <= text.size) (solid : text.Solid scan.pos (scan.pos + 1)) (bare : scan.Bare text)
include inside solid bare
lemma openBrace_fwd (brace : text.unit scan.pos = 0x7B) : Fwd text scan scan.openBrace := by
 unfold openBrace openBracket
 dsimp only
 split
 · exact Fwd.sign inside solid Nat.one_pos rfl bare (.kept rfl rfl)
 next fStr active =>
  have active : scan.fStr = some fStr := active
  split
  · exact Fwd.sign inside solid Nat.one_pos rfl bare (.braced (.inl brace) (by rw [active]; rfl) rfl)
  · split
    · exact Fwd.sign inside solid Nat.one_pos rfl bare (.braced (.inl brace) (by rw [active]; rfl) rfl)
    · exact Fwd.sign inside solid Nat.one_pos rfl bare (.kept rfl rfl)

lemma closeBrace_fwd (brace : text.unit scan.pos = 0x7D) : Fwd text scan scan.closeBrace := by
 unfold closeBrace closeBracket
 dsimp only
 split
 · exact Fwd.sign inside solid Nat.one_pos rfl bare (.braced (.inr brace) (by simp [Function.comp_def, push]) rfl)
 · exact Fwd.sign inside solid Nat.one_pos rfl bare (.kept rfl rfl)

lemma colon_fwd : Fwd text scan (scan.colon text) := by
 unfold colon
 split
 next walrus =>
  simp only [Bool.and_eq_true] at walrus
  exact Fwd.sign inside
   (solid.append (.unit (show Plain (· == 0x3D) by decide) walrus.1)) Nat.two_pos rfl bare (.kept rfl rfl)
 · dsimp only
   split
   next level =>
    obtain ⟨fStr, field, active, within, level⟩ := atFieldDepth_iff.mp level
    exact Fwd.sign inside solid Nat.one_pos rfl bare
     (.specified active within level (by simp [take, push, active, within]) rfl rfl)
   · exact Fwd.sign inside solid Nat.one_pos rfl bare (.kept rfl rfl)

end

/-! ## Characters -/

/-- What reading one character can do. -/
inductive Reading (text : Text) (scan : Scan) : Scan -> Prop where
 | fwd {next : Scan} (fwd : Fwd text scan next) : Reading text scan next
 | magic {next : Scan} (hit : scan.magic? text = some next) : Reading text scan next
 | abandoned {fStr : FStrCtx} {field : FieldCtx} {singles doubles : Nat}
    (abandons : scan.Abandons text fStr field) :
    Reading text scan ({ scan with
     lines := (scan.strContent text 0).content.lines
     lineStart := (scan.strContent text 0).content.lineStart
     singleQuoteCount := singles, doubleQuoteCount := doubles}.abandonFields fStr field)
 | misread {digits : String} (malformed : numAt text scan.pos = .malformed digits) :
    Reading text scan {scan with pos := text.size, failure := some (.badInteger digits)}

lemma char_reads (inside : scan.pos < text.size) : Reading text scan (scan.char text) := by
 have within := Nat.le_of_lt inside
 unfold char
 split
 next prefixLen starts =>
  rcases string_reads within starts with fwd | ⟨fStr, field, singles, doubles, abandons, eq⟩
  · exact .fwd fwd
  · rw [eq]
    exact .abandoned abandons
 · dsimp only
   split
   next sharp => exact .fwd (cmt_fwd (eq_of_beq sharp))
   next plain =>
    split
    next next hit => exact .magic hit
    next unmarked =>
     have bare := Bare.of_magic? plain unmarked
     split
     next order =>
      have unit := eq_of_beq order
      split
      next first =>
       rw [first] at unit inside
       refine .fwd ⟨Advance.pass (by omega) fun pos least last => ?_, by dsimp only; omega⟩
       obtain rfl : pos = 0 := by omega
       exact ⟨inside, by rw [unit]; decide, .byteOrderMark rfl unit⟩
      · exact .fwd (invalid_fwd inside (by rw [unit]; decide) bare)
     · split
       case h_14 =>
        rename_i notRet notFeed _ _ _ _ _ _ _ _ _ _ _
        have unbroken : isBreak (text.unit scan.pos) = false := by
         cases broken : isBreak (text.unit scan.pos) with
         | false => rfl
         | true =>
          rcases isBreak_iff.mp broken with eq | eq
          · exact absurd (by rw [eq]; rfl) notRet
          · exact absurd (by rw [eq]; rfl) notFeed
        rcases word_fwd inside unbroken bare with fwd | ⟨digits, malformed, eq⟩
        · exact .fwd fwd
        · rw [eq]
          exact .misread malformed
       all_goals rename_i reads
       case h_1 | h_2 =>
        refine .fwd (newLine_fwd (isBreak_iff.mpr ?_))
        simp only [<- UInt16.toNat_inj, toNat_of_char reads (by decide)]
        decide
       case h_3 => exact .fwd (continuation_fwd (UInt16.toNat_inj.mp (toNat_of_char reads (by decide))))
       case h_8 =>
        exact .fwd (openBrace_fwd within (solid_of_char reads (by decide)) bare
         (UInt16.toNat_inj.mp (toNat_of_char reads (by decide))))
       case h_9 =>
        exact .fwd (closeBrace_fwd within (solid_of_char reads (by decide)) bare
         (UInt16.toNat_inj.mp (toNat_of_char reads (by decide))))
       case h_13 => exact .fwd (colon_fwd within (solid_of_char reads (by decide)) bare)
       all_goals
        exact .fwd (Fwd.sign within (solid_of_char reads (by decide)) Nat.one_pos rfl bare (.kept rfl rfl)
         (by first | trivial | exact Nat.lt_succ_self _))

/-! ## Literal parts -/

/-- Reading a literal part adds its tokens without the waiting comments, and closes the f-string unless a
brace follows. -/
lemma fStrMiddle_frame {fStr : FStrCtx} {hit : ContentEnd}
  (walked : scanContent text fStr.field.isSome (fStr.field.any (·.inFormat))
   (scan.contentAt scan.pos fStr.flags) = hit)
  (first : scan.pos <= hit.content.pos) (last : hit.stop <= text.size)
  (stop : hit.stop = hit.content.pos + length)
  (closing : Closing text fStr.flags hit.content length) :
  ∃ tokens ctx outer, scan.fStrMiddle text fStr =
    { scan with
     pos := hit.stop, lines := hit.content.lines, lineStart := hit.content.lineStart
     tokens, fStr := ctx, outers := outer} ∧
   (scan.Laid text -> Cover text scan.cells tokens scan.cmts hit.stop) ∧
   (scan.Nested text -> Nests text tokens scan.indents none) ∧ Adds scan.tokens tokens ∧
   (tokens.back?.all (·.isLayout) -> scan.atLineStart ∧ hit.stop = scan.pos) ∧
   ((ctx = scan.fStr ∧ outer = scan.outers) ∧ (text.unit hit.stop = 0x7B ∨ text.unit hit.stop = 0x7D) ∨
    ctx = scan.outers.head? ∧ outer = scan.outers.tail) := by
 have mid (flags : StrFlags) (escaped : Text) (laid : scan.Laid text) : Cover text scan.cells
   (scan.tokens.push ⟨⟨scan.pos, hit.content.pos - scan.pos⟩, .fStrMiddle flags escaped, #[]⟩)
   scan.cmts hit.content.pos :=
  laid.push _ Array.empty_append rfl (by omega) (by omega) fun _ word => by contradiction
 unfold fStrMiddle
 dsimp only
 rw [walked]
 cases closing with
 | unclosed mark ends =>
  simp only [mark, Bool.or_true, if_true]
  refine ⟨_, _, _, rfl, fun laid => ?_, fun nested => nested.word rfl, Adds.refl.push, fun layout => ?_, .inr ⟨rfl, rfl⟩⟩
  · rw [stop]
    exact mid _ _ laid
  · simp [pushBare, Token.isLayout, TokenKind.isLayout] at layout
 | field mark goes _ brace =>
  rw [<- Nat.add_zero hit.content.pos, <- stop] at brace
  simp only [goes, Bool.or_eq_true, mark, Bool.or_false, if_true, if_false, Bool.false_eq_true]
  split
  · refine ⟨_, _, _, rfl, fun laid => ?_, fun nested => nested.word rfl, Adds.refl.push, fun layout => ?_, .inl ⟨⟨rfl, rfl⟩, brace⟩⟩
    · rw [stop]
      exact mid _ _ laid
    · simp [Token.isLayout, TokenKind.isLayout] at layout
  next empty =>
   simp only [decide_eq_true_eq] at empty
   refine ⟨_, _, _, rfl, fun laid => ?_, id, .refl, fun layout => ⟨layout, by omega⟩, .inl ⟨⟨rfl, rfl⟩, brace⟩⟩
   rwa [show hit.stop = scan.pos by omega]
 | quote fresh closes =>
  have plain : isMark (text.unit hit.content.pos) = false :=
   isMark_eq_false (· == fStr.flags.quote) (by unfold StrFlags.quote; split <;> decide) (beq_iff_eq.mpr closes.1)
  simp only [fresh.unclosed, fresh.fieldStart, fresh.fieldEnd, Bool.or_false, if_false, Bool.false_eq_true]
  split
  · refine ⟨_, _, _, rfl, fun laid => ?_, fun nested => (nested.word rfl).word rfl,
     Adds.refl.push.push, fun layout => ?_, .inr ⟨rfl, rfl⟩⟩
    · exact (mid _ _ laid).push _ Array.empty_append rfl (by omega) last fun _ _ => remarkAt?_eq_none plain
    · simp [pushBare, Token.isLayout, TokenKind.isLayout] at layout
  next empty =>
   simp only [decide_eq_true_eq] at empty
   refine ⟨_, _, _, rfl, fun laid => ?_, fun nested => nested.word rfl, Adds.refl.push, fun layout => ?_,
    .inr ⟨rfl, rfl⟩⟩
   · have same : hit.content.pos = scan.pos := by omega
     rw [same] at plain ⊢
     exact Cover.push laid _ Array.empty_append rfl (by omega) last fun _ _ => remarkAt?_eq_none plain
   · simp [pushBare, Token.isLayout, TokenKind.isLayout] at layout

lemma lead_of_literal?_eq_none (bare : scan.literal? = none) :
  scan.lead text = {scan with pos := text.skipWhile isSpacing scan.pos} := by
 simp [lead, bare]

lemma lead_advance (inside : scan.pos <= text.size) (fresh : scan.Fresh) : Advance text scan (scan.lead text) ∧
  (scan.literal?.isSome -> (scan.lead text).atLineStart -> (scan.lead text).pos = scan.pos) ∧
  (scan.literal?.isSome -> isQuote (text.unit scan.pos) -> scan.pos < (scan.lead text).pos) ∧
  (scan.lead text).depth = scan.depth ∧
  (((scan.lead text).fStr = scan.fStr ∧ (scan.lead text).outers = scan.outers) ∧
    (scan.literal?.isSome -> text.unit (scan.lead text).pos = 0x7B ∨ text.unit (scan.lead text).pos = 0x7D) ∨
   scan.literal?.isSome ∧ (scan.lead text).fStr = scan.outers.head? ∧
    (scan.lead text).outers = scan.outers.tail) := by
 unfold lead
 cases literal : scan.literal? with
 | none =>
  have blank := Blank.skipWhile text scan.pos
  refine ⟨Advance.pass blank.le fun pos least last => ?_, by simp, by simp, rfl, .inl ⟨⟨rfl, rfl⟩, by simp⟩⟩
  exact ⟨blank.solid.inside _ least last, blank.solid.unbroken _ least last, .spacing (blank.spacing _ least last)⟩
 | some fStr =>
  have active : scan.fStr = some fStr := (Option.filter_eq_some_iff.mp literal).1
  obtain ⟨walk, _, length, stop, closing⟩ := scanContent_closing fStr.field.isSome
   (fStr.field.any (·.inFormat)) (scan.contentAt scan.pos fStr.flags) inside
   (fresh fStr (.inl active))
  have last := closing.solid.le_size (walk.le_size inside)
  have opening : Walk text scan.mark (scan.contentAt scan.pos fStr.flags) := Walk.here.pass (.refl _) rfl rfl
  have solid := closing.solid
  rw [<- stop] at solid last
  obtain ⟨tokens, ctx, outer, eq, laid, nested, adds, calm, kept⟩ :=
   fStrMiddle_frame rfl walk.le last stop closing
  simp only [eq]
  refine ⟨⟨Nat.le_trans walk.le solid.le, fun _ => (opening.trans walk).pass solid rfl rfl, laid, nested, adds, rfl, rfl, ?_,
   fun _ layout => (calm layout).1⟩, fun _ layout => (calm layout).2,
   fun _ quoted => Nat.lt_of_not_le fun (stays : _ <= scan.pos) => ?_, trivial,
   kept.imp (fun ⟨same, brace⟩ => ⟨same, fun _ => brace⟩) fun closed => ⟨rfl, closed⟩⟩
  · exact kept.elim (fun ⟨same, _⟩ => .kept same.1 same.2) fun closed => .ended (by simp [literal]) closed.1 closed.2
  · have first : scan.pos <= _ := walk.le
    obtain rfl : length = 0 := by omega
    have never := closing.not_quote
    rw [show (scanContent text fStr.field.isSome (fStr.field.any (·.inFormat))
     (scan.contentAt scan.pos fStr.flags)).content.pos = scan.pos by omega] at never
    simp [never] at quoted

end TypeChecker.Scan
