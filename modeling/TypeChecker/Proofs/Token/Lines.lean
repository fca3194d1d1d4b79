import TypeChecker.Proofs.Token.Outcome

/-! The line table of a text. A run that records every line end once cuts the text into its lines. Two
readings can spoil that: a notebook magic passes over a line end without recording it, and a quote that
closes an f-string from inside a field leaves the lines recorded that were walked over before it was seen
to close. The table is right exactly if neither happens. -/

namespace TypeChecker
open Scan
variable {text : Text} {stop start : Nat} {content : Content}

/-! ## Lines -/

/-- A line of the text ends before `stop`: a carriage return and the line feed behind it are one end. -/
structure LineEnd (text : Text) (stop : Nat) : Prop where
 positive : 0 < stop
 broken : isBreak (text.unit (stop - 1))
 whole : ¬ (text.unit (stop - 1) = 0x0D ∧ text.unit stop = 0x0A)

/-- The spans cut the text from `start` on into lines: each but the last goes up to the next line end, and
no line ends behind the start of the last. -/
inductive Lines (text : Text) : Nat -> List Span -> Prop where
 | last {start : Nat} (single : ∀ other, start < other -> ¬ LineEnd text other) :
    Lines text start [⟨start, text.size - start⟩]
 | line {start stop : Nat} {rest : List Span} (least : start < stop) (ends : LineEnd text stop)
    (single : ∀ other, start < other -> other < stop -> ¬ LineEnd text other) (more : Lines text stop rest) :
    Lines text start (⟨start, stop - start⟩ :: rest)

lemma LineEnd.le_size (ends : LineEnd text stop) : stop <= text.size := by
 have inside := isBreak.lt_size ends.broken
 have := ends.positive
 omega

/-- A line ends behind its terminator and nowhere inside it. -/
lemma LineEnd.of_break {pos : Nat} (broken : isBreak (text.unit pos)) :
  LineEnd text (pos + breakLen text pos) ∧
  ∀ stop, pos < stop -> stop < pos + breakLen text pos -> ¬ LineEnd text stop := by
 unfold breakLen
 split
 next pair =>
  simp only [Bool.and_eq_true, beq_iff_eq] at pair
  refine ⟨⟨by omega, ?_, ?_⟩, fun stop first last ends => ?_⟩
  · rw [show pos + 2 - 1 = pos + 1 by omega, pair.2]
    decide
  · rw [show pos + 2 - 1 = pos + 1 by omega, pair.2]
    exact fun both => absurd both.1 (by decide)
  · obtain rfl : stop = pos + 1 := by omega
    exact ends.whole pair
 next single =>
  simp only [Bool.and_eq_true, beq_iff_eq] at single
  exact ⟨⟨by omega, broken, single⟩, fun stop first last => by omega⟩

/-- A solid run passes no line end. -/
lemma Text.Solid.not_lineEnd {last : Nat} (solid : text.Solid start last) (first : start < stop)
  (within : stop <= last) : ¬ LineEnd text stop := fun ends => by
 have := solid.unbroken (stop - 1) (by omega) (by omega)
 simp [ends.broken] at this

/-- The spans cut the text up to the line end `stop` into lines. -/
inductive Recorded (text : Text) : Nat -> List Span -> Prop where
 | begin : Recorded text 0 []
 | line {start stop : Nat} {spans : List Span} (before : Recorded text start spans) (least : start < stop)
    (ends : LineEnd text stop) (single : ∀ other, start < other -> other < stop -> ¬ LineEnd text other) :
    Recorded text stop (spans ++ [⟨start, stop - start⟩])

lemma Recorded.lines {spans rest : List Span} (recorded : Recorded text stop spans) (more : Lines text stop rest) :
  Lines text 0 (spans ++ rest) := by
 induction recorded generalizing rest with
 | begin => exact more
 | line before least ends single ih =>
  rw [List.append_assoc]
  exact ih (.line least ends single more)

lemma Recorded.last {spans : List Span} (recorded : Recorded text stop spans) (positive : 0 < stop) :
  LineEnd text stop ∧ ∃ span, spans.getLast? = some span ∧ span.stop = stop := by
 cases recorded with
 | begin => omega
 | line before least ends single => exact ⟨ends, _, List.getLast?_concat, by simp only [Span.stop]; omega⟩

/-! ## Tables that are not right -/

/-- A span with a line end inside. -/
def Overlong (text : Text) (span : Span) : Prop := ∃ stop, LineEnd text stop ∧ span.start < stop ∧ stop < span.stop

/-- The number of units that the spans cover, a unit that two of them share twice. -/
def covered : List Span -> Nat
 | [] => 0
 | span :: rest => span.length + covered rest

lemma covered_append (lines more : List Span) : covered (lines ++ more) = covered lines + covered more := by
 induction lines with
 | nil => simp [covered]
 | cons span rest ih => rw [List.cons_append, covered, covered, ih, Nat.add_assoc]

lemma Lines.covered_eq {lines : List Span} (holds : Lines text start lines) (inside : start <= text.size) :
  start + covered lines = text.size := by
 induction holds with
 | last => simp [covered, inside]
 | line least ends _ _ ih =>
  have rest := ih ends.le_size
  simp only [covered]
  omega

lemma Lines.not_overlong {lines : List Span} (holds : Lines text start lines) :
  ∀ span ∈ lines, ¬ Overlong text span := by
 induction holds with
 | last single =>
  simp only [List.mem_singleton, forall_eq]
  exact fun ⟨stop, ends, first, _⟩ => single stop first ends
 | line least _ single _ ih =>
  simp only [List.mem_cons, forall_eq_or_imp]
  refine ⟨fun ⟨stop, ends, first, inner⟩ => single stop first ?_ ends, ih⟩
  simp only [Span.stop] at inner
  omega

/-! ## The table along a walk -/

/-- The lines up to the line that the read position is on are recorded; the end of that line may be. -/
structure OnTrack (text : Text) (content : Content) : Prop where
 recorded : Recorded text content.lineStart content.lines.toList
 passed : ∀ stop, LineEnd text stop -> stop < text.size -> content.lineStart < stop -> content.pos < stop
 ahead : ∀ stop, LineEnd text stop -> content.pos < stop -> content.lineStart <= stop

/-- The table covers all that lies before the line at hand. -/
def Complete (content : Content) : Prop := content.lineStart <= covered content.lines.toList

/-- The table holds an overlong span, or covers more than what lies before the line at hand. -/
def Spoiled (text : Text) (content : Content) : Prop :=
 (∃ span ∈ content.lines.toList, Overlong text span) ∨ content.lineStart < covered content.lines.toList

/-- A line end that was passed and is not recorded, or is yet to be passed with a later one recorded. -/
structure Pending (text : Text) (content : Content) (stop : Nat) : Prop where
 ends : LineEnd text stop
 amiss : content.lineStart < stop ∧ stop <= content.pos ∧ stop < text.size ∨
  content.pos < stop ∧ stop < content.lineStart

lemma Scan.Content.endLine_eq (content : Content) : content.endLine = { content with
  lines := if content.lineStart < content.pos
   then content.lines.push ⟨content.lineStart, content.pos - content.lineStart⟩ else content.lines
  lineStart := content.pos} := by
 unfold Content.endLine
 split <;> rfl

lemma covered_endLine (content : Content) :
  covered content.endLine.lines.toList = covered content.lines.toList + (content.pos - content.lineStart) := by
 rw [Content.endLine_eq]
 dsimp only
 split
 · simp [covered, covered_append]
 · omega

lemma Complete.endLine (complete : Complete content) (stop : Nat) :
  Complete ({content with pos := stop} : Content).endLine := by
 have sum := covered_endLine {content with pos := stop}
 rw [Content.endLine_eq] at sum ⊢
 unfold Complete at *
 dsimp only at *
 omega

lemma Spoiled.endLine (spoiled : Spoiled text content) (stop : Nat) :
  Spoiled text ({content with pos := stop} : Content).endLine := by
 have sum := covered_endLine {content with pos := stop}
 rw [Content.endLine_eq] at sum ⊢
 rcases spoiled with ⟨span, mem, overlong⟩ | more
 · refine .inl ⟨span, ?_, overlong⟩
   dsimp only
   split
   · simp [mem]
   · exact mem
 · refine .inr ?_
   dsimp only at *
   omega

namespace Walk
variable {start last : Content} (walk : Walk text start last)
include walk
lemma onTrack (track : OnTrack text start) : OnTrack text last := by
 induction walk with
 | here => exact track
 | @pass mid last _ solid lines lineStart ih =>
  refine ⟨by rw [lines, lineStart]; exact ih.recorded, fun stop ends inner after => ?_, fun stop ends after => ?_⟩
  · rw [lineStart] at after
    have before := ih.passed stop ends inner after
    exact Nat.lt_of_not_le fun within => solid.not_lineEnd before within ends
  · rw [lineStart]
    exact ih.ahead stop ends (Nat.lt_of_le_of_lt solid.le after)
 | @line mid before broken ih =>
  have ⟨ends, whole⟩ := LineEnd.of_break broken
  have positive := breakLen_pos text mid.pos
  have inside := ends.le_size
  rw [Content.endLine_eq]
  refine ⟨?_, fun _ _ _ after => after, fun stop _ after => Nat.le_of_lt after⟩
  dsimp only
  split
  next further =>
   rw [Array.toList_push]
   refine .line ih.recorded further ends fun stop first last other => ?_
   rcases Nat.lt_or_ge mid.pos stop with after | passed
   · exact whole stop after last other
   · have := ih.passed stop other (by omega) first
     omega
  · have := ih.ahead _ ends (by omega)
    rw [show mid.pos + breakLen text mid.pos = mid.lineStart by omega]
    exact ih.recorded

lemma complete (complete : Complete start) : Complete last := by
 induction walk with
 | here => exact complete
 | pass _ _ lines lineStart ih =>
  unfold Complete
  rwa [lines, lineStart]
 | line _ _ ih => exact ih.endLine _

/-- A spoiled table stays so. -/
lemma spoiled (spoiled : Spoiled text start) : Spoiled text last := by
 induction walk with
 | here => exact spoiled
 | pass _ _ lines lineStart ih =>
  unfold Spoiled
  rwa [lines, lineStart]
 | line _ _ ih => exact ih.endLine _

/-- The next line to be recorded spoils the table, as long as a line end is pending. -/
lemma pending (complete : Complete start) (pending : Pending text start stop) :
  Spoiled text last ∨ last.lines = start.lines ∧ last.lineStart = start.lineStart ∧ Pending text last stop := by
 induction walk with
 | here => exact .inr ⟨rfl, rfl, pending⟩
 | @pass mid last _ solid lines lineStart ih =>
  have le := solid.le
  refine ih.imp (fun spoiled => ?_) fun ⟨same, sameStart, ends, amiss⟩ =>
   ⟨lines.trans same, lineStart.trans sameStart, ends, ?_⟩
  · unfold Spoiled
    rwa [lines, lineStart]
  · rw [lineStart]
    refine amiss.imp (fun ⟨first, passed, inner⟩ => ⟨first, by omega, inner⟩) fun ⟨first, recorded⟩ => ⟨?_, recorded⟩
    exact Nat.lt_of_not_le fun within => solid.not_lineEnd first within ends
 | @line mid before broken ih =>
  refine .inl ?_
  rcases ih with spoiled | ⟨_, _, ends, amiss⟩
  · exact spoiled.endLine _
  have ⟨recorded, whole⟩ := LineEnd.of_break broken
  have positive := breakLen_pos text mid.pos
  have complete := before.complete complete
  unfold Complete at complete
  rw [Content.endLine_eq]
  rcases amiss with ⟨first, passed, _⟩ | ⟨first, later⟩
  · refine .inl ⟨⟨mid.lineStart, mid.pos + breakLen text mid.pos - mid.lineStart⟩, ?_,
     stop, ends, first, by simp only [Span.stop]; omega⟩
    simp [show mid.lineStart < mid.pos + breakLen text mid.pos by omega]
  · -- The walk comes to a line end before the line at hand.
    have : mid.pos + breakLen text mid.pos <= stop :=
     Nat.le_of_not_lt fun inside => whole stop first inside ends
    refine .inr ?_
    dsimp only
    rw [if_neg (by omega)]
    omega

end Walk

/-! ## Slips -/

/-- The reading passes a line end without recording it, or goes back before one and leaves a later one
recorded. -/
inductive Slips (text : Text) (scan : Scan) : Prop where
 | magic {next : Scan} {stop : Nat} (hit : scan.magic? text = some next) (ends : LineEnd text stop)
    (inner : stop < text.size) (first : scan.pos < stop) (last : stop <= next.pos)
 | abandoned {fStr : FStrCtx} {field : FieldCtx} {stop : Nat}
    (abandons : scan.Abandons text fStr field) (ends : LineEnd text stop) (first : scan.pos < stop)
    (last : stop < (scan.strContent text 0).content.lineStart)

variable {scan next : Scan} {depth : Nat} {cells : Bool}
lemma magic?_starts (hit : scan.magic? text = some next) :
  (text.unit scan.pos = unitOf '%' ∨ text.unit scan.pos = unitOf '!') ∧ scan.atLineStart := by
 unfold magic? at hit
 dsimp only at hit
 split at hit
 next starts =>
  simp only [Bool.and_eq_true, Bool.or_eq_true, beq_iff_eq] at starts
  exact ⟨starts.1.2, starts.2⟩
 · contradiction

lemma char_of_magic? (hit : scan.magic? text = some next) : scan.char text = next := by
 unfold char
 rcases (magic?_starts hit).1 with unit | unit
 all_goals
  have bare : prefixLen? text scan.pos = none := by
   simp [prefixLen?, unit, isQuote, isPrefixPair, isLetterOf, unitOf]
  simp [bare, hit, unit, unitOf]

lemma char_of_abandons {fStr : FStrCtx} {field : FieldCtx}
  (abandons : scan.Abandons text fStr field) :
  ∃ singles doubles, scan.char text = { scan with
   lines := (scan.strContent text 0).content.lines
   lineStart := (scan.strContent text 0).content.lineStart
   singleQuoteCount := singles, doubleQuoteCount := doubles}.abandonFields fStr field := by
 have plain : (quoteFlags text scan.pos 0).hasFields = false := by
  have empty : text.slice scan.pos scan.pos = #[] := Array.extract_empty_of_stop_le_start Nat.le.refl
  simp [StrFlags.hasFields, quoteFlags, empty]
 unfold char
 rw [abandons.starts]
 simp only [string, plain, Bool.false_eq_true, if_false, if_true, abandons.closes]
 exact ⟨_, _, rfl⟩

/-- Where the table is ahead of the read position no line starts, so no magic does. -/
def Scan.Calm (scan : Scan) : Prop := scan.pos < scan.lineStart -> scan.atLineStart = false

lemma Scan.Calm.behind (calm : scan.Calm) (hit : scan.magic? text = some next) : scan.lineStart <= scan.pos :=
 Nat.le_of_not_lt fun early => by simpa [calm early] using (magic?_starts hit).2

lemma Slips.pending (slips : Slips text scan) (_ : scan.pos < text.size) (calm : scan.Calm) :
  ∃ stop, Pending text (scan.char text).mark stop := by
 cases slips with
 | @magic next stop hit ends inner first last =>
  have behind := calm.behind hit
  obtain ⟨_, _, _, rfl, _⟩ := magic_frame hit
  rw [char_of_magic? hit]
  exact ⟨stop, ends, .inl ⟨Nat.lt_of_le_of_lt behind first, last, inner⟩⟩
 | @abandoned fStr field stop abandons ends first last =>
  obtain ⟨singles, doubles, eq⟩ := char_of_abandons abandons
  rw [eq]
  exact ⟨stop, ends, .inr ⟨first, last⟩⟩

/-- A reading from a right table that does not slip leaves it right. -/
lemma Scan.Reading.onTrack (reading : Reading text scan next) (paired : text.Paired)
  (inside : scan.pos < text.size) (track : OnTrack text scan.mark) (sure : ¬ Slips text scan)
  (going : next.failure = none) : OnTrack text next.mark := by
 cases reading with
 | fwd fwd => exact (fwd.walk paired).onTrack track
 | magic hit =>
  obtain ⟨start, stop, kind, rfl, first, last, _⟩ := magic_frame hit
  refine ⟨track.recorded, fun other ends inner after => ?_, fun other ends after => ?_⟩
  · exact Nat.lt_of_not_le fun passed => sure (.magic hit ends inner (track.passed other ends inner after) passed)
  · have after : stop < other := after
    exact track.ahead other ends (show scan.pos < other by omega)
 | abandoned abandons =>
  obtain ⟨_, _, walk, _⟩ := strContent_closing (Nat.le_of_lt inside) abandons.starts
  have reached := walk.onTrack track
  refine ⟨reached.recorded, fun other ends inner after => ?_, fun other ends after => ?_⟩
  · exact Nat.lt_of_le_of_lt walk.le (reached.passed other ends inner after)
  · exact Nat.le_of_not_lt fun later => sure (.abandoned abandons ends after later)
 | misread => contradiction

/-- A table that is spoiled, or will be by the next line that is recorded. -/
def Doomed (text : Text) (content : Content) : Prop := Spoiled text content ∨ ∃ stop, Pending text content stop

lemma Walk.doomed {start last : Content} (walk : Walk text start last) (complete : Complete start)
  (doomed : Doomed text start) : Doomed text last := by
 rcases doomed with spoiled | ⟨stop, pending⟩
 · exact .inl (walk.spoiled spoiled)
 · exact (walk.pending complete pending).imp_right fun ⟨_, _, pending⟩ => ⟨stop, pending⟩

lemma Scan.Reading.doomed (reading : Reading text scan next) (paired : text.Paired)
  (inside : scan.pos < text.size) (calm : scan.Calm) (complete : Complete scan.mark)
  (doomed : Doomed text scan.mark) (going : next.failure = none) : Doomed text next.mark := by
 cases reading with
 | fwd fwd => exact (fwd.walk paired).doomed complete doomed
 | magic hit =>
  have behind := calm.behind hit
  obtain ⟨start, stop, kind, rfl, first, last, _⟩ := magic_frame hit
  refine doomed.imp id fun ⟨other, ends, amiss⟩ => ⟨other, ends, ?_⟩
  rcases amiss with ⟨least, passed, inner⟩ | ⟨least, recorded⟩
  · exact .inl ⟨least, Nat.le_trans passed (show scan.pos <= stop by omega), inner⟩
  · exact absurd recorded (Nat.not_lt.mpr (Nat.le_of_lt (Nat.lt_of_le_of_lt behind least)))
 | abandoned abandons =>
  obtain ⟨_, _, walk, _⟩ := strContent_closing (Nat.le_of_lt inside) abandons.starts
  rcases doomed with spoiled | ⟨stop, pending⟩
  · exact .inl (walk.spoiled spoiled)
  · refine (walk.pending complete pending).imp id fun ⟨_, lineStart, _⟩ => ⟨stop, pending.ends, ?_⟩
    have same : (scan.strContent text 0).content.lineStart = scan.lineStart := lineStart
    exact same ▸ pending.amiss
 | misread => contradiction

/-! ## Runs -/

/-- What holds of the table in every state: it is complete, and where it is ahead of the read position,
behind the quote of an abandoned field, no line starts. -/
structure Scan.Settled (text : Text) (scan : Scan) : Prop where
 complete : Complete scan.mark
 early : scan.pos < scan.lineStart -> scan.atLineStart = false ∨ scan.literal?.isSome ∧ isQuote (text.unit scan.pos)

/-- A walk that ends before the last recorded line end has passed none. -/
lemma Walk.solid_of_lt {start last : Content} (walk : Walk text start last) (early : last.pos < last.lineStart) :
  text.Solid start.pos last.pos ∧ start.pos < start.lineStart := by
 induction walk with
 | here => exact ⟨.refl _, early⟩
 | pass _ solid _ lineStart ih =>
  have ⟨before, least⟩ := ih (by rw [<- lineStart]; exact Nat.lt_of_le_of_lt solid.le early)
  exact ⟨before.append solid, least⟩
 | line =>
  rw [Content.endLine_eq] at early
  exact absurd early (Nat.lt_irrefl _)

lemma Scan.Settled.lead (settled : scan.Settled text) (paired : text.Paired) (inside : scan.pos <= text.size)
  (fresh : scan.Fresh) : (scan.lead text).Calm ∧ Complete (scan.lead text).mark := by
 obtain ⟨advance, stays, leaves, _⟩ := lead_advance inside fresh
 refine ⟨fun early => ?_, (advance.walk paired).complete settled.complete⟩
 have ⟨solid, before⟩ := (advance.walk paired).solid_of_lt early
 refine Bool.eq_false_iff.mpr fun starts => ?_
 rcases settled.early before with calm | ⟨literal, quoted⟩
 · simpa [calm] using advance.calm solid starts
 · have further := leaves literal quoted
   have := stays literal starts
   omega

lemma Scan.Reading.settled (reading : Reading text scan next) (paired : text.Paired)
  (inside : scan.pos < text.size) (calm : scan.Calm) (complete : Complete scan.mark) : next.Settled text := by
 cases reading with
 | fwd fwd =>
  refine ⟨(fwd.walk paired).complete complete, fun early => .inl (Bool.eq_false_iff.mpr fun starts => ?_)⟩
  have ⟨solid, before⟩ := (fwd.walk paired).solid_of_lt early
  simpa [calm before] using fwd.calm solid starts
 | magic hit =>
  have behind := calm.behind hit
  obtain ⟨start, stop, kind, rfl, first, last, _⟩ := magic_frame hit
  refine ⟨complete, fun early => ?_⟩
  have early : stop < scan.lineStart := early
  omega
 | abandoned abandons =>
  obtain ⟨_, _, walk, _⟩ := strContent_closing (Nat.le_of_lt inside) abandons.starts
  refine ⟨walk.complete complete, fun _ => .inr ⟨by simp [literal?, abandonFields], ?_⟩⟩
  exact (prefixLen?_solid abandons.starts).2
 | misread =>
  refine ⟨complete, fun early => .inl (calm ?_)⟩
  have early : text.size < scan.lineStart := early
  omega

lemma Scan.Reached.settled (paired : text.Paired) (reached : Reached text depth cells scan) :
  scan.Settled text := by
 induction reached with
 | start =>
  obtain ⟨_, _, _, _, _, _, eq, _⟩ := readIndent_frame {pos := 0, cells, depth : Scan} text
  rw [Scan.start, eq]
  exact ⟨Nat.zero_le _, fun early => absurd early (Nat.not_lt_zero _)⟩
 | @step before reached unread ih =>
  have sound := reached.sound
  obtain ⟨calm, complete⟩ := ih.lead paired sound.inside sound.fresh
  unfold Scan.step
  dsimp only
  split
  · exact ⟨complete, fun early => .inl (calm early)⟩
  · exact (char_reads (by omega)).settled paired (by omega) calm complete

lemma Scan.Reads.calm (paired : text.Paired) (reads : Reads text depth cells scan) :
  scan.Calm ∧ Complete scan.mark := by
 obtain ⟨before, reached, _, rfl, _⟩ := reads
 exact (reached.settled paired).lead paired reached.sound.inside reached.sound.fresh

/-- The mark of a step, unless it fails: that of its lead, and then that of a reading. -/
lemma Scan.Reached.step_mark (kept : Content -> Prop) (paired : text.Paired)
  (reached : Reached text depth cells scan) (unread : scan.pos < text.size)
  (going : (scan.step text).failure = none)
  (walks : ∀ {last}, Walk text scan.mark last -> kept last)
  (reads : Reads text depth cells (scan.lead text) -> kept (scan.lead text).mark ->
   ((scan.lead text).char text).failure = none -> kept ((scan.lead text).char text).mark) :
  kept (scan.step text).mark := by
 have sound := reached.sound
 have lead := walks ((lead_advance sound.inside sound.fresh).1.walk paired)
 unfold Scan.step at going ⊢
 dsimp only at going ⊢
 split at going
 · rwa [if_pos ‹_›]
 next within =>
  rw [if_neg within]
  exact reads ⟨scan, reached, unread, rfl, Nat.lt_of_not_le within⟩ lead going

/-- As long as no reading slips the table is right. -/
lemma Scan.Reached.onTrack (paired : text.Paired) (reached : Reached text depth cells scan)
  (sure : ∀ scan, Reads text depth cells scan -> ¬ Slips text scan)
  (going : scan.failure = none) : OnTrack text scan.mark := by
 induction reached with
 | start =>
  obtain ⟨_, _, _, _, _, _, eq, _⟩ := readIndent_frame {pos := 0, cells, depth : Scan} text
  have solid := (Blank.skipWhile text 0).solid
  rw [Scan.start, eq]
  refine ⟨.begin, fun stop ends _ after => ?_, fun stop _ _ => Nat.zero_le _⟩
  exact Nat.lt_of_not_le fun passed => solid.not_lineEnd after passed ends
 | @step before reached unread ih =>
  have track := ih (reached.sound.going unread)
  refine reached.step_mark _ paired unread going (·.onTrack track) fun reads lead going => ?_
  obtain ⟨_, _, _, _, inside⟩ := id reads
  exact (char_reads inside).onTrack paired inside lead (sure _ reads) going

/-- From a slip on the table is doomed. -/
lemma Scan.Reached.doomed (paired : text.Paired) (reached : Reached text depth cells scan)
  (doomed : Doomed text scan.mark) (fuel : Nat) (going : (scan.run text fuel).failure = none) :
  Doomed text (scan.run text fuel).mark := by
 induction fuel generalizing scan with
 | zero => exact doomed
 | succ fuel ih =>
  rw [run] at going ⊢
  split at going
  · rwa [if_pos ‹_›]
  next unread =>
   rw [if_neg unread]
   have unread := Nat.lt_of_not_le unread
   have next := reached.step unread
   refine ih next ?_ going
   have going : (scan.step text).failure = none := by
    -- A step that fails ends the run.
    refine Classical.byContradiction fun failed => failed ?_
    have stops := Nat.le_of_eq (next.sound.failed failed).symm
    cases fuel with
    | zero => exact going
    | succ fuel => rwa [run, if_pos stops] at going
   refine reached.step_mark _ paired unread going
    (·.doomed (reached.settled paired).complete doomed) fun reads lead going => ?_
   obtain ⟨_, _, _, _, inside⟩ := id reads
   obtain ⟨calm, complete⟩ := reads.calm paired
   exact (char_reads inside).doomed paired inside calm complete lead going

/-! ## The table at the end -/

lemma OnTrack.closeLines (track : OnTrack text content) (ended : content.pos = text.size) (nonempty : 0 < text.size) :
  Lines text 0 (closeLines text content.endLine.lines content.pos).toList := by
 have empty : Lines text text.size [⟨text.size, 0⟩] := by
  simpa using Lines.last fun stop first (ends : LineEnd text stop) => Nat.not_le_of_lt first ends.le_size
 rw [Content.endLine_eq, ended]
 dsimp only
 split
 next further =>
  have single (stop : Nat) (first : content.lineStart < stop) (last : stop < text.size) : ¬ LineEnd text stop :=
   fun ends => by
    have := track.passed stop ends last first
    omega
  have stop : (⟨content.lineStart, text.size - content.lineStart⟩ : Span).stop = text.size := by
   simp only [Span.stop]
   omega
  simp only [Scan.closeLines, Array.back?_push, stop]
  split
  next broken =>
   have ends : LineEnd text text.size :=
    ⟨nonempty, broken, fun pair => by simp [Text.unit_of_size_le (Nat.le_refl text.size)] at pair⟩
   simp only [Array.toList_push]
   exact (Recorded.line track.recorded further ends single).lines empty
  next unbroken =>
   rw [Array.toList_push]
   refine track.recorded.lines (.last fun stop first ends => ?_)
   rcases Nat.eq_or_lt_of_le ends.le_size with rfl | inner
   · exact unbroken ends.broken
   · exact single stop first inner ends
 next recorded =>
  obtain ⟨ends, span, last, stop⟩ := track.recorded.last (by omega)
  have whole : content.lineStart = text.size := Nat.le_antisymm ends.le_size (by omega)
  rw [whole] at ends stop
  have back : content.lines.back? = some span := by rw [<- Array.getLast?_toList, last]
  simp only [Scan.closeLines, back, stop, ends.broken, if_true, Array.toList_push]
  exact (whole ▸ track.recorded).lines empty

lemma Doomed.closeLines (doomed : Doomed text content) (ended : content.pos = text.size) :
  ¬ Lines text 0 (closeLines text content.endLine.lines content.pos).toList := by
 intro holds
 have spoiled : Spoiled text content.endLine := by
  rcases doomed with spoiled | ⟨stop, ends, ⟨first, passed, inner⟩ | ⟨first, _⟩⟩
  · exact spoiled.endLine content.pos
  · rw [Content.endLine_eq, if_pos (by omega)]
    exact .inl ⟨⟨content.lineStart, content.pos - content.lineStart⟩, by simp, stop, ends, first,
     by simp only [Span.stop]; omega⟩
  · have := ends.le_size
    omega
 obtain ⟨more, closed, empty⟩ : ∃ more, (Scan.closeLines text content.endLine.lines content.pos).toList =
   content.endLine.lines.toList ++ more ∧ covered more = 0 := by
  unfold Scan.closeLines
  split
  · split
    · exact ⟨[⟨content.pos, 0⟩], Array.toList_push, rfl⟩
    · exact ⟨[], by simp, rfl⟩
  · exact ⟨[], by simp, rfl⟩
 rw [closed] at holds
 rcases spoiled with ⟨span, mem, overlong⟩ | longer
 · exact holds.not_overlong span (List.mem_append_left _ mem) overlong
 · have whole := holds.covered_eq (Nat.zero_le _)
   have further : content.endLine.lineStart = text.size := by rw [Content.endLine_eq, ended]
   rw [covered_append] at whole
   omega

/-- The line table of a text cuts it into its lines exactly if no reading slips: passes a line end in a
notebook magic, or goes back before a line end, from which a later one has been recorded, to the quote
that closes an f-string. -/
theorem tokenize?_lines_iff {result : TokenizedText} (paired : text.Paired) (nonempty : 0 < text.size)
  (ok : tokenize? text {depth := depth, cells := cells} = .ok result) :
  Lines text 0 result.lines.toList ↔ ∀ scanner, Reads text depth cells scanner -> ¬ Slips text scanner := by
 obtain ⟨going, rfl⟩ := tokenize?_ok ok
 obtain ⟨_, _, _, _, lines, _⟩ := finish_frame (ended text depth cells) text
 have last : (ended text depth cells).mark.pos = text.size := ended_pos text depth cells
 have table : ((ended text depth cells).finish text).result.lines =
   closeLines text (ended text depth cells).mark.endLine.lines (ended text depth cells).mark.pos := lines
 rw [table]
 constructor
 · intro holds scanner reads slips
   obtain ⟨fuel, ends⟩ := reads.reaches.ends
   obtain ⟨_, _, _, _, inside⟩ := id reads
   have doomed := reads.reaches.doomed paired (.inr (slips.pending inside (reads.calm paired).1)) fuel (ends ▸ going)
   rw [← ends] at doomed
   exact doomed.closeLines last holds
 · exact fun sure => ((ended_reached text depth cells).onTrack paired sure going).closeLines last nonempty

/-- A line, a string with a line continuation in it, and a last line. -/
theorem tokenize?_lines_iff_continued :
  let text : Text := (['a', '\n', '"', '\\', '\r', '\n', '"', '\r', 'b'].map unitOf).toArray
  text.Paired ∧ 0 < text.size ∧ ∃ result, tokenize? text {depth := 1, cells := true} = .ok result ∧
   (Lines text 0 result.lines.toList ↔ ∀ scanner, Reads text 1 true scanner -> ¬ Slips text scanner) := by
 intro text
 have paired : text.Paired := Text.Paired.of_lt (by decide)
 obtain ⟨result, hit, _⟩ : ∃ result, tokenize? text {depth := 1, cells := true} = .ok result ∧
   result.lines.size = 4 := exists_ok_of_map (by decide +kernel)
 exact ⟨paired, by decide, result, hit, tokenize?_lines_iff paired (by decide) hit⟩

/-- The quote that closes the f-string is first taken for the start of a string, which goes on to the end
of the text. The lines recorded on the way stay, and the second is recorded again. -/
theorem tokenize?_not_lines :
  let text : Text := (['f', '"', '"', '"', '\x7b', '"', '"', '"', '\n', 'a', '\n', 'b'].map unitOf).toArray
  ∃ result, tokenize? text {depth := 0, cells := false} = .ok result ∧
   result.lines.toList = [⟨0, 9⟩, ⟨9, 2⟩, ⟨9, 2⟩, ⟨11, 1⟩] ∧ ¬ Lines text 0 result.lines.toList := by
 intro text
 obtain ⟨result, hit, lines⟩ : ∃ result, tokenize? text {depth := 0, cells := false} = .ok result ∧
   result.lines.toList = [⟨0, 9⟩, ⟨9, 2⟩, ⟨9, 2⟩, ⟨11, 1⟩] := exists_ok_of_map (by decide +kernel)
 refine ⟨result, hit, lines, fun holds => ?_⟩
 have whole := holds.covered_eq (Nat.zero_le _)
 rw [lines] at whole
 exact absurd whole (by decide)

end TypeChecker
