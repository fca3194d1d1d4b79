import TypeChecker.Proofs.Token.Words

/-! How tokens and comments lie in their text: in order, apart from each other, and with only layout and line
continuations between them. Comments and notebook magics stand where the text announces them. -/

namespace TypeChecker
open Scan
/-- The number of characters that introduce a comment. -/
def CmtKind.introLen : CmtKind -> Nat
 | .cellMagic | .cellShellEscape => 2
 | _ => 1

/-- A comment is what its introducing character announces: the rest of a line, or a notebook magic. -/
structure Remark (text : Text) (cells : Bool) (cmt : Cmt) : Prop where
 introduced : cmt.kind.introLen <= cmt.span.start
 inside : cmt.span.stop <= text.size
 value : cmt.value = text.slice cmt.span.start cmt.span.stop
 regular : cmt.kind = .regular -> text.unit (cmt.span.start - 1) = unitOf '#' ∧ text.Solid cmt.span.start cmt.span.stop
 magic : cmt.kind ≠ .regular -> cells ∧
  ∃ mark, (mark = unitOf '%' ∨ mark = unitOf '!') ∧ ∀ pos, pos < cmt.span.start ->
   cmt.span.start - cmt.kind.introLen <= pos -> text.unit pos = mark
 /-- A magic of a line ends with one, and a magic of a cell with the text. -/
 ends : cmt.span.stop < text.size -> cmt.kind.introLen = 1 ∧ isBreak (text.unit cmt.span.stop)

namespace Cmt

/-- Where a comment is announced. -/
def first (cmt : Cmt) : Nat := cmt.span.start - cmt.kind.introLen

/-- The comment that is announced at `pos` and goes on to where `stop` finds its end. -/
def announced (text : Text) (kind : CmtKind) (pos : Nat) (stop : Nat -> Nat) : Cmt :=
 let start := pos + kind.introLen
 ⟨kind, ⟨start, stop start - start⟩, text.slice start (stop start)⟩

end Cmt

/-- The characters that announce comments and magics. -/
def isMark (unit : UInt16) : Bool := unit == unitOf '#' || unit == unitOf '%' || unit == unitOf '!'

/-- Whether only layout has come before a place since its line began. -/
def startsLine (tokens : Array Token) (pos : Nat) : Bool := (tokens.filter (·.stop <= pos)).back?.all (·.isLayout)

/-- The comment or magic that the text announces at a place, which lies among the given tokens. -/
def remarkAt? (text : Text) (cells : Bool) (tokens : Array Token) (pos : Nat) : Option Cmt :=
 let unit := text.unit pos
 if unit == unitOf '#' then some (.announced text .regular pos (text.skipWhile (!isBreak ·)))
 else if cells && (unit == unitOf '%' || unit == unitOf '!') && startsLine tokens pos then
  let isCell := text.unit (pos + 1) == unit
  some (.announced text (magicKind unit isCell) pos (magicEnd text isCell))
 else none

variable {text : Text} {cells : Bool} {tokens : Array Token} {cmts : Array Cmt} {pos : Nat}
 {token : Token} {kept : Array Cmt} {stop : Nat}

lemma isMark_eq_false (test : UInt16 -> Bool) (none : ¬(test (unitOf '#') || test (unitOf '%') || test (unitOf '!')))
  {unit : UInt16} (holds : test unit) : isMark unit = false := by
 refine Bool.eq_false_iff.mpr fun mark => none ?_
 simp only [isMark, Bool.or_eq_true, beq_iff_eq] at mark ⊢
 rcases mark with (rfl | rfl) | rfl
 · exact .inl (.inl holds)
 · exact .inl (.inr holds)
 · exact .inr holds

lemma isMark_of_prefixLen? {len : Nat} (hit : prefixLen? text pos = some len) :
  isMark (text.unit pos) = false := by
 refine Bool.eq_false_iff.mpr fun mark => ?_
 simp only [isMark, Bool.or_eq_true, beq_iff_eq] at mark
 rcases mark with (unit | unit) | unit <;>
  simp [prefixLen?, unit, isQuote, isPrefixPair, isLetterOf, unitOf] at hit

lemma remarkAt?_eq_none (plain : isMark (text.unit pos) = false) : remarkAt? text cells tokens pos = none := by
 simp only [isMark, Bool.or_eq_false_iff] at plain
 simp [remarkAt?, plain]

/-- Tokens that end later do not count. -/
lemma remarkAt?_push (later : pos < token.stop) :
  remarkAt? text cells (tokens.push token) pos = remarkAt? text cells tokens pos := by
 simp [remarkAt?, startsLine, Nat.not_le.mpr later]

lemma magicKind_introLen (unit : UInt16) (isCell : Bool) :
  (magicKind unit isCell).introLen = (if isCell then 2 else 1) ∧ magicKind unit isCell ≠ .regular := by
 unfold magicKind
 cases isCell <;> split <;> simp [CmtKind.introLen]

private theorem magicEnd_go (isCell : Bool) (fuel lineStart pos : Nat) (inside : pos <= text.size)
  (enough : text.size < pos + fuel) : let stop := magicEnd.go text isCell fuel lineStart pos
  pos <= stop ∧ stop <= text.size ∧ (stop < text.size -> isCell = false ∧ isBreak (text.unit stop)) := by
 induction fuel generalizing lineStart pos with
 | zero => omega
 | succ fuel ih =>
  have least := Text.le_skipWhile text (fun unit => !isBreak unit) pos
  have most := Text.skipWhile_le_size (fun unit => !isBreak unit) inside
  simp only [magicEnd.go]
  split
  next last => exact ⟨least, most, fun inside => ⟨by simp_all, by simpa using Text.skipWhile_stops inside⟩⟩
  · split
    · exact ⟨by omega, by omega, by omega⟩
    · have later := ih (text.skipWhile (fun unit => !isBreak unit) pos + 2)
       (text.skipWhile (fun unit => !isBreak unit) pos + 1) (by omega) (by omega)
      exact ⟨by omega, later.2⟩

lemma magicEnd_bounds {start : Nat} (isCell : Bool) (inside : start <= text.size) :
  let stop := magicEnd text isCell start
  start <= stop ∧ stop <= text.size ∧ (stop < text.size -> isCell = false ∧ isBreak (text.unit stop)) :=
 magicEnd_go isCell _ _ start inside (by omega)

/-- What is announced is a comment that starts there. -/
lemma remark_of_remarkAt? {cmt : Cmt} (hit : remarkAt? text cells tokens pos = some cmt) :
  Remark text cells cmt ∧ cmt.first = pos ∧ pos < cmt.span.stop ∧ isMark (text.unit pos) := by
 have placed (kind : CmtKind) (stop : Nat -> Nat) (le : pos + kind.introLen <= stop (pos + kind.introLen)) :
   (Cmt.announced text kind pos stop).first = pos ∧
   (Cmt.announced text kind pos stop).span.stop = stop (pos + kind.introLen) :=
  ⟨Nat.add_sub_cancel _ _, Nat.add_sub_cancel' le⟩
 unfold remarkAt? at hit
 dsimp only at hit
 split at hit
 next sharp =>
  obtain rfl := Option.some.inj hit
  have unit := eq_of_beq sharp
  have inside : pos < text.size := Text.lt_size_of_unit_ne (by rw [unit]; decide)
  have rest : text.Solid (pos + 1) (text.skipWhile (!isBreak ·) (pos + 1)) := .skipWhile text (by simp) _
  obtain ⟨first, stop⟩ := placed .regular _ rest.le
  refine ⟨⟨Nat.le_add_left _ _, ?_, ?_, fun _ => ⟨unit, ?_⟩, fun differs => absurd rfl differs, ?_⟩, first, ?_, ?_⟩
  · rw [stop]
    exact rest.le_size inside
  · rw [stop]
    rfl
  · rw [stop]
    exact rest
  · rw [stop]
    exact fun inside => ⟨rfl, by simpa using Text.skipWhile_stops inside⟩
  · exact stop ▸ rest.le
  · simp [isMark, unit]
 · split at hit
   next starts =>
    obtain rfl := Option.some.inj hit
    simp only [Bool.and_eq_true, Bool.or_eq_true, beq_iff_eq] at starts
    obtain ⟨⟨mode, mark⟩, _⟩ := starts
    have nonzero : text.unit pos ≠ 0 := by rcases mark with unit | unit <;> rw [unit] <;> decide
    have ⟨width, magic⟩ := magicKind_introLen (text.unit pos) (text.unit (pos + 1) == text.unit pos)
    have within : pos + (magicKind (text.unit pos) (text.unit (pos + 1) == text.unit pos)).introLen <= text.size := by
     rw [width]
     split
     next cell => exact Text.lt_size_of_unit_ne (eq_of_beq cell ▸ nonzero)
     · exact Text.lt_size_of_unit_ne nonzero
    have ⟨least, most, ends⟩ := magicEnd_bounds (text.unit (pos + 1) == text.unit pos) within
    obtain ⟨first, stop⟩ := placed _ (magicEnd text _) least
    refine ⟨⟨Nat.le_add_left _ _, ?_, ?_, fun regular => absurd regular magic, fun _ => ⟨mode, _, mark, ?_⟩, ?_⟩, first, ?_, ?_⟩
    · rw [stop]
      exact most
    · rw [stop]
      rfl
    · intro off last least
      have least : pos <= off := first ▸ least
      have last : off < pos + (magicKind (text.unit pos) (text.unit (pos + 1) == text.unit pos)).introLen := last
      rw [width] at last
      rcases Nat.eq_or_lt_of_le least with rfl | after
      · rfl
      · split at last
        next cell => rw [show off = pos + 1 by omega, eq_of_beq cell]
        · omega
    · rw [stop]
      exact fun inside => ⟨by rw [Cmt.announced, width, (ends inside).1]; rfl, (ends inside).2⟩
    · rw [stop]
      split at width <;> omega
    · rcases mark with unit | unit <;> simp [isMark, unit]
   · contradiction

/-- A comment belongs to a token or waits for one. -/
def Held (tokens : Array Token) (cmts : Array Cmt) (cmt : Cmt) : Prop :=
 (∃ token ∈ tokens, cmt ∈ token.cmts) ∨ cmt ∈ cmts

lemma Held.push (tokens : Array Token) (cmt : Cmt) (parts : token.cmts ++ kept = cmts) :
  Held (tokens.push token) kept cmt ↔ Held tokens cmts cmt := by
 subst parts
 simp only [Held, Array.mem_push, Array.mem_append]
 grind

def TokenKind.isLiteral (kind : TokenKind) : Bool := kind matches .fStrMiddle ..

/-- The comments before `pos` are what the text announces, in its order and apart from each other and from the
tokens; and no word stands where one is announced. No comment is left for later by a comma. -/
structure Remarked (text : Text) (cells : Bool) (tokens : Array Token) (cmts : Array Cmt) (pos : Nat) :
  Prop where
 exact : ∀ cmt, Held tokens cmts cmt -> remarkAt? text cells tokens cmt.first = some cmt
 behind : ∀ cmt, Held tokens cmts cmt -> cmt.span.stop <= pos
 ordered : (cmtsOf tokens ++ cmts.toList).Pairwise fun left right => left.span.stop <= right.first
 earlier : ∀ token ∈ tokens, ∀ cmt ∈ token.cmts, cmt.span.stop <= token.start
 apart : ∀ token ∈ tokens, ∀ cmt, Held tokens cmts cmt -> token.stop <= cmt.first ∨ cmt.span.stop <= token.start
 words : ∀ token ∈ tokens, token.start < token.stop -> token.kind.isLiteral = false ->
  remarkAt? text cells tokens token.start = none
 commas : tokens.toList.Pairwise fun left right => left.kind = .comma -> ∀ cmt ∈ right.cmts, left.stop <= cmt.first
 waiting : ∀ token ∈ tokens, token.kind = .comma -> ∀ cmt ∈ cmts, token.stop <= cmt.first

namespace Remarked
variable (remarked : Remarked text cells tokens cmts pos)
include remarked
lemma pass (further : pos <= stop) : Remarked text cells tokens cmts stop :=
 {remarked with behind := fun cmt held => Nat.le_trans (remarked.behind cmt held) further}

lemma push (ends : ∀ token ∈ tokens, token.stop <= pos) (parts : token.cmts ++ kept = cmts) (start : pos = token.start)
  (word : token.start < token.stop -> token.kind.isLiteral = false -> remarkAt? text cells tokens token.start = none)
  (all : token.kind = .comma -> kept = #[]) :
  Remarked text cells (tokens.push token) kept token.stop := by
 have held (cmt : Cmt) := Held.push tokens cmt parts
 have further : token.start <= token.stop := Nat.le_add_right _ _
 subst start
 refine ⟨fun cmt mem => ?_, fun cmt mem => ?_, ?_, fun old mem cmt mine => ?_,
  fun old mem cmt mine => ?_, fun old mem nonempty literal => ?_, ?_, fun old mem comma cmt mine => ?_⟩
 · have mem := (held cmt).mp mem
   have hit := remarked.exact cmt mem
   have ⟨_, _, before, _⟩ := remark_of_remarkAt? hit
   rw [remarkAt?_push (Nat.lt_of_lt_of_le before (Nat.le_trans (remarked.behind cmt mem) further)), hit]
 · exact Nat.le_trans (remarked.behind cmt ((held cmt).mp mem)) further
 · simpa [cmtsOf, <- parts] using remarked.ordered
 · rcases Array.mem_push.mp mem with mem | rfl
   · exact remarked.earlier old mem cmt mine
   · exact remarked.behind cmt (.inr (parts ▸ Array.mem_append_left _ mine))
 · have present := (held cmt).mp mine
   rcases Array.mem_push.mp mem with mem | rfl
   · exact remarked.apart old mem cmt present
   · exact .inr (remarked.behind cmt present)
 · rcases Array.mem_push.mp mem with mem | rfl
   · have before := Nat.lt_of_lt_of_le nonempty (Nat.le_trans (ends old mem) further)
     rw [remarkAt?_push before]
     exact remarked.words old mem nonempty literal
   · rw [remarkAt?_push nonempty]
     exact word nonempty literal
 · simp only [Array.toList_push, List.pairwise_append, List.pairwise_singleton, List.mem_singleton, forall_eq]
   exact ⟨remarked.commas, trivial, fun left mem comma cmt mine =>
    remarked.waiting left (by simpa using mem) comma cmt (parts ▸ Array.mem_append_left _ mine)⟩
 · rcases Array.mem_push.mp mem with mem | rfl
   · exact remarked.waiting old mem comma cmt (parts ▸ Array.mem_append_right _ mine)
   · simp [all comma] at mine

lemma add (ends : ∀ token ∈ tokens, token.stop <= pos)
  {cmt : Cmt} (hit : remarkAt? text cells tokens pos = some cmt) :
  Remarked text cells tokens (cmts.push cmt) cmt.span.stop := by
 have ⟨_, first, before, _⟩ := remark_of_remarkAt? hit
 have held (other : Cmt) : Held tokens (cmts.push cmt) other ↔ Held tokens cmts other ∨ other = cmt := by
  simp only [Held, Array.mem_push, or_assoc]
 refine ⟨fun other mem => ?_, fun other mem => ?_, ?_, remarked.earlier, fun token mem other mine => ?_,
  remarked.words, remarked.commas, fun token mem comma other mine => ?_⟩
 · rcases (held other).mp mem with mem | rfl
   · exact remarked.exact other mem
   · rwa [first]
 · rcases (held other).mp mem with mem | rfl
   · exact Nat.le_trans (remarked.behind other mem) (Nat.le_of_lt before)
   · exact Nat.le_refl _
 · simp only [Array.toList_push, <- List.append_assoc, List.pairwise_append, List.pairwise_singleton, List.mem_singleton]
   refine ⟨List.pairwise_append.mp remarked.ordered, trivial, fun other mem _ eq => ?_⟩
   rw [eq, first]
   exact remarked.behind other (by simpa [Held, cmtsOf] using mem)
 · rcases (held other).mp mine with mine | rfl
   · exact remarked.apart token mem other mine
   · exact .inl (first ▸ ends token mem)
 · rcases Array.mem_push.mp mine with mine | rfl
   · exact remarked.waiting token mem comma other mine
   · exact first ▸ ends token mem

end Remarked

/-- A place that needs no token: layout, a line continuation, or part of a comment. -/
inductive Spare (text : Text) (held : Cmt -> Prop) (pos : Nat) : Prop where
 | spacing (holds : isSpacing (text.unit pos))
 | lineBreak (holds : isBreak (text.unit pos))
 | byteOrderMark (first : pos = 0) (mark : text.unit pos = 0xFEFF)
 | continuation (backslash : text.unit pos = 0x5C)
    (broken : isBreak (text.unit (pos + 1)))
 | cmt {cmt : Cmt} (mem : held cmt)
    (first : cmt.span.start - cmt.kind.introLen <= pos)
    (last : pos < cmt.span.stop)

/-- Only blanks stand from `start` up to `stop`. -/
structure Blank (text : Text) (start stop : Nat) : Prop where
 le : start <= stop
 spacing : ∀ pos, start <= pos -> pos < stop -> isSpacing (text.unit pos)

lemma Blank.skipWhile (text : Text) (start : Nat) : Blank text start (text.skipWhile isSpacing start) :=
 Text.skipWhile_keeps (Blank text start) ⟨Nat.le_refl _, fun _ _ _ => by omega⟩
  fun pos blank _ holds => ⟨Nat.le_succ_of_le blank.le, fun off first last => by
   rcases Nat.lt_or_ge off pos with before | after
   · exact blank.spacing off first before
   · rwa [show off = pos by omega]⟩

lemma Blank.solid {text : Text} {start : Nat} (blank : Blank text start stop) : text.Solid start stop :=
 have plain : Plain isSpacing := by decide
 ⟨blank.le, fun _ first last => plain.lt_size (blank.spacing _ first last),
  fun _ first last => plain.unbroken (blank.spacing _ first last)⟩

/-- The tokens lie in order before `pos` and account for every place there. -/
structure Cover (text : Text) (cells : Bool) (tokens : Array Token) (cmts : Array Cmt)
  (pos : Nat) : Prop where
 inside : pos <= text.size
 ordered : tokens.toList.Pairwise fun left right => left.stop <= right.start
 behind : ∀ token ∈ tokens, token.stop <= pos
 remarked : Remarked text cells tokens cmts pos
 covered : ∀ off, off < pos -> (∃ token ∈ tokens, token.start <= off ∧ off < token.stop) ∨
  Spare text (Held tokens cmts) off
 fits : ∀ token ∈ tokens, token.kind.Fits text token.start token.stop

lemma Spare.mono {text : Text} {held held' : Cmt -> Prop} {pos : Nat} (spare : Spare text held pos)
  (more : ∀ cmt, held cmt -> held' cmt) : Spare text held' pos := by
 cases spare with
 | spacing holds => exact .spacing holds
 | lineBreak holds => exact .lineBreak holds
 | byteOrderMark first mark => exact .byteOrderMark first mark
 | continuation backslash broken => exact .continuation backslash broken
 | cmt mem first last => exact .cmt (more _ mem) first last

namespace Cover
variable (laid : Cover text cells tokens cmts pos)
include laid
lemma real {cmt : Cmt} (held : Held tokens cmts cmt) : Remark text cells cmt :=
 (remark_of_remarkAt? (laid.remarked.exact cmt held)).1

/-- Moves on over places that need no token. -/
lemma pass (further : pos <= stop)
  (inside : stop <= text.size)
  (spare : ∀ off, pos <= off -> off < stop -> Spare text (Held tokens cmts) off) :
  Cover text cells tokens cmts stop where
 inside
 ordered := laid.ordered
 behind := fun token mem => Nat.le_trans (laid.behind token mem) further
 remarked := laid.remarked.pass further
 covered := fun off last => by
  rcases Nat.lt_or_ge off pos with before | after
  · exact laid.covered off before
  · exact .inr (spare off after last)
 fits := laid.fits

lemma blank (blank : Blank text pos stop) : Cover text cells tokens cmts stop :=
 laid.pass blank.le (blank.solid.le_size laid.inside) fun _ first last => .spacing (blank.spacing _ first last)

variable (kind : TokenKind)
/-- Adds a token that takes some of the waiting comments. -/
lemma push {start len : Nat}
  {taken : Array Cmt} (parts : taken ++ kept = cmts) (first : pos = start) (ends : start + len = stop)
  (last : stop <= text.size) (word : 0 < len -> kind.isLiteral = false -> remarkAt? text cells tokens pos = none)
  (fits : kind.Fits text start stop := by trivial) (all : kind = .comma -> kept = #[] := by first | exact fun _ => rfl | nofun) :
  Cover text cells (tokens.push ⟨⟨start, len⟩, kind, taken⟩) kept stop := by
 subst first ends
 have remarked : Remarked text cells (tokens.push ⟨⟨pos, len⟩, kind, taken⟩) kept (pos + len) :=
  laid.remarked.push laid.behind parts rfl (fun nonempty => word (Nat.pos_of_lt_add_right nonempty)) all
 refine ⟨last, ?_, fun token mem => ?_, remarked, ?_, fun token mem => ?_⟩
 · simp only [Array.toList_push, List.pairwise_append, List.pairwise_singleton, List.mem_singleton]
   refine ⟨laid.ordered, trivial, fun left mem right eq => ?_⟩
   subst eq
   exact laid.behind left (by simpa using mem)
 · rcases Array.mem_push.mp mem with old | rfl
   · exact Nat.le_trans (laid.behind token old) (Nat.le_add_right _ _)
   · exact Nat.le_refl _
 · intro off before
   rcases Nat.lt_or_ge off pos with inside | outside
   · rcases laid.covered off inside with ⟨token, mem, covers⟩ | spare
     · exact .inl ⟨token, Array.mem_push_of_mem _ mem, covers⟩
     · exact .inr (spare.mono fun cmt => (Held.push _ _ parts).mpr)
   · exact .inl ⟨_, Array.mem_push_self, outside, before⟩
 · rcases Array.mem_push.mp mem with old | rfl
   · exact laid.fits token old
   · exact fits

/-- Adds a token without width. -/
lemma empty {taken : Array Cmt}
  (parts : taken ++ kept = cmts) (fits : kind.Fits text pos pos := by trivial) :
  Cover text cells (tokens.push ⟨⟨pos, 0⟩, kind, taken⟩) kept pos :=
 laid.push kind parts rfl rfl laid.inside (fun wide => absurd wide (Nat.lt_irrefl 0)) fits
  fun comma => absurd fits (by rw [comma]; exact Nat.lt_irrefl pos)

/-- Adds a comment that waits for the next token. -/
lemma cmt {cmt : Cmt}
  (hit : remarkAt? text cells tokens pos = some cmt) :
  Cover text cells tokens (cmts.push cmt) cmt.span.stop := by
 have ⟨remark, first, before, _⟩ := remark_of_remarkAt? hit
 refine ⟨remark.inside, laid.ordered, fun token mem => ?_, laid.remarked.add laid.behind hit, fun off last => ?_,
  laid.fits⟩
 · exact Nat.le_trans (laid.behind token mem) (Nat.le_of_lt before)
 · rcases Nat.lt_or_ge off pos with early | after
   · exact (laid.covered off early).imp_right (·.mono fun _ held => held.imp_right (Array.mem_push_of_mem _))
   · exact .inr (.cmt (.inr Array.mem_push_self) (Nat.le_trans (Nat.le_of_eq first) after) last)

end Cover
end TypeChecker
