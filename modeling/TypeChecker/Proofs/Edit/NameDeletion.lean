import TypeChecker.Edit.ImportList
import TypeChecker.Proofs.Text.Search
import TypeChecker.Proofs.Token.Outcome

/-! Deleting names of a list that has a comma between neighbours. The spans to delete take away whole names and commas,
and leave the other names with one comma between neighbours. -/

namespace TypeChecker
variable {idx next item other place off low high length first last : Nat} {indexes : List Nat} {part : Nat -> Span}
 {span : Span}

/-! ## The parts of a list -/

/-- The parts of a list stand one behind the other: the names at the even places, the commas at the odd ones. -/
structure InOrder (part : Nat -> Span) (length : Nat) : Prop where
 wide : ∀ item, item + 1 < 2 * length -> (part item).start < (part item).stop
 next : ∀ item, item + 2 < 2 * length -> (part item).stop <= (part (item + 1)).start

lemma InOrder.le (order : InOrder part length) (less : item < other) (inside : other + 1 < 2 * length) :
  (part item).stop <= (part other).start := by
 induction less with
 | refl => exact order.next item inside
 | @step other _ ih =>
  have before := ih (Nat.lt_of_succ_lt inside)
  exact Nat.le_trans before (Nat.le_trans (Nat.le_add_right _ _) (order.next other inside))

/-- The offset lies between the parts before a place and those from it on. -/
structure Splits (part : Nat -> Span) (length off place : Nat) : Prop where
 before : ∀ item < place, (part item).stop <= off
 behind : ∀ item, place <= item -> item + 1 < 2 * length -> off <= (part item).start

lemma InOrder.start (order : InOrder part length) (inside : place + 1 < 2 * length) :
  Splits part length (part place).start place where
 before _ less := order.le less inside
 behind item least inside := by
  rcases Nat.lt_or_eq_of_le least with less | rfl
  · exact Nat.le_trans (Nat.le_add_right _ _) (order.le less inside)
  · exact Nat.le_refl _

lemma InOrder.stop (order : InOrder part length) (inside : place + 1 < 2 * length) :
  Splits part length (part place).stop (place + 1) where
 before item less := by
  rcases Nat.lt_or_eq_of_le (Nat.le_of_lt_succ less) with less | rfl
  · exact Nat.le_trans (order.le less inside) (Nat.le_add_right _ _)
  · exact Nat.le_refl _
 behind _ least inside := order.le least inside

/-- Takes an offset between two that split the parts at the same place. -/
lemma Splits.between (here : Splits part length low place) (there : Splits part length high place) (least : low <= off)
  (most : off <= high) : Splits part length off place where
 before item less := Nat.le_trans (here.before item less) least
 behind item above inside := Nat.le_trans most (there.behind item above inside)

/-- Offsets that split the parts at different places are in the order of these. -/
lemma Splits.le (here : Splits part length low item) (there : Splits part length high other) (less : item < other)
  (inside : other < 2 * length) : low <= high :=
 Nat.le_trans (here.behind item (Nat.le_refl _) (Nat.lt_of_le_of_lt less inside))
  (Nat.le_trans (Nat.le_add_right _ _) (there.before item less))

/-- The span takes the parts from one place to before another. -/
structure Bounds (part : Nat -> Span) (length : Nat) (span : Span) (first last : Nat) : Prop where
 less : first < last
 inside : last < 2 * length
 start : Splits part length span.start first
 stop : Splits part length span.stop last

lemma Bounds.contains (bounds : Bounds part length span first last) (least : first <= item) (most : item < last) :
  span.containsSpan (part item) := by
 have start := bounds.start.behind item least (Nat.lt_of_le_of_lt most bounds.inside)
 simpa [Span.containsSpan, start] using bounds.stop.before item most

lemma Bounds.apart (bounds : Bounds part length span first last) (inside : item + 1 < 2 * length)
  (outside : ¬(first <= item ∧ item < last)) : (part item).stop <= span.start ∨ span.stop <= (part item).start := by
 rcases Nat.lt_or_ge item first with less | least
 · exact .inl (bounds.start.before item less)
 · exact .inr (bounds.stop.behind item (by omega) inside)

lemma Bounds.contains_iff (order : InOrder part length) (bounds : Bounds part length span first last)
  (inside : item + 1 < 2 * length) : span.containsSpan (part item) ↔ first <= item ∧ item < last := by
 refine ⟨fun contained => ?_, fun within => bounds.contains within.1 within.2⟩
 by_contra outside
 have apart := bounds.apart inside outside
 have wide := order.wide item inside
 rw [Span.containsSpan, Bool.and_eq_true, decide_eq_true_eq, decide_eq_true_eq] at contained
 omega

/-- A name at one of the indexes goes, and so does a comma that is behind it or has no other name behind. -/
def Gone (length : Nat) (indexes : List Nat) (item : Nat) : Prop :=
 item / 2 ∈ indexes ∨ item % 2 = 1 ∧ ∀ idx, item / 2 < idx -> idx < length -> idx ∈ indexes

/-- The spans take the parts that go, each by one span. -/
structure Cut (part : Nat -> Span) (length : Nat) (spans : List Span) (gone : Nat -> Prop) : Prop where
 bounds : ∀ span ∈ spans, ∃ first last, Bounds part length span first last ∧ ∀ item, first <= item -> item < last -> gone item
 found : ∀ item, item + 1 < 2 * length -> gone item -> ∃ span ∈ spans, ∃ first last,
  Bounds part length span first last ∧ first <= item ∧ item < last

/-- The index of the name at a place, or none for a comma. -/
def nameAt? (item : Nat) : Option Nat := if item % 2 = 0 then some (item / 2) else none

/-- What the spans leave of a list of names, of which those at the indexes are to be deleted: the other names with a
comma between neighbours. -/
structure Leaves (part : Nat -> Span) (length : Nat) (indexes : List Nat) (spans : List Span) : Prop where
 deleted : ∀ idx ∈ indexes, idx < length -> ∃ span ∈ spans, span.containsSpan (part (2 * idx))
 kept : ∀ idx, idx ∉ indexes -> idx < length -> ∀ span ∈ spans,
  (part (2 * idx)).stop <= span.start ∨ span.stop <= (part (2 * idx)).start
 whole : ∀ item, item + 1 < 2 * length -> ∀ span ∈ spans,
  span.containsSpan (part item) ∨ (part item).stop <= span.start ∨ span.stop <= (part item).start
 left : ((List.range (2 * length - 1)).filter fun item => !spans.any (·.containsSpan (part item))).map nameAt? =
  [none].intercalate (((List.range length).filter (!indexes.contains ·)).map fun idx => [some idx])

section
variable {spans : List Span} (order : InOrder part length) (cut : Cut part length spans (Gone length indexes))
include order cut
lemma gone_iff_any (inside : item + 1 < 2 * length) : spans.any (·.containsSpan (part item)) ↔ Gone length indexes item := by
 rw [List.any_eq_true]
 constructor
 · rintro ⟨span, mem, contained⟩
   obtain ⟨first, last, bounds, goes⟩ := cut.bounds span mem
   have within := (bounds.contains_iff order inside).mp contained
   exact goes item within.1 within.2
 · intro goes
   obtain ⟨span, mem, first, last, bounds, within⟩ := cut.found item inside goes
   exact ⟨span, mem, bounds.contains within.1 within.2⟩

/-- What is left from a name on. -/
lemma left_from (count : Nat) (total : idx + (count + 1) = length) :
  ((List.range' (2 * idx) (2 * count + 1)).filter fun item => !spans.any (·.containsSpan (part item))).map nameAt? =
   [none].intercalate (((List.range' idx (count + 1)).filter (!indexes.contains ·)).map fun idx => [some idx]) := by
 have goes {idx : Nat} (inside : idx < length) : spans.any (·.containsSpan (part (2 * idx))) ↔ idx ∈ indexes :=
  (gone_iff_any order cut (show 2 * idx + 1 < 2 * length by omega)).trans (by simp [Gone])
 induction count generalizing idx with
 | zero =>
  have name := goes (show idx < length by omega)
  by_cases mem : idx ∈ indexes <;> simp_all [nameAt?]
 | succ count ih =>
  have name := goes (show idx < length by omega)
  have gone : Gone length indexes (2 * idx + 1) ↔
    idx ∈ indexes ∨ (List.range' (idx + 1) (count + 1)).filter (!indexes.contains ·) = [] := by
   simp [Gone, List.filter_eq_nil_iff, show (2 * idx + 1) / 2 = idx by omega, show (2 * idx + 1) % 2 = 1 by omega, <- total,
    show idx + 1 + (count + 1) = idx + (count + 1 + 1) by omega]
  have comma := (gone_iff_any order cut (show 2 * idx + 1 + 1 < 2 * length by omega)).trans gone
  have rest := @ih (idx + 1) (by omega)
  rw [show 2 * (count + 1) + 1 = 2 * count + 1 + 1 + 1 by omega, List.range'_succ, List.range'_succ, @List.range'_succ idx,
   List.filter_cons, List.filter_cons, List.filter_cons]
  rw [show 2 * (idx + 1) = 2 * idx + 1 + 1 from rfl] at rest
  generalize (List.range' (idx + 1) (count + 1)).filter (!indexes.contains ·) = kept at comma rest ⊢
  generalize (List.range' (2 * idx + 1 + 1) (2 * count + 1)).filter _ = left at rest ⊢
  by_cases mem : idx ∈ indexes
  · simp [name.mpr mem, comma.mpr (.inl mem), mem, rest]
  have stays := mt name.mp mem
  cases kept with
  | nil => simp [stays, comma.mpr (.inr rfl), mem, rest, nameAt?]
  | cons item kept =>
   have stays' := mt comma.mp (by simp [mem])
   simp [stays, stays', mem, rest, nameAt?]

lemma Leaves.of_cut : Leaves part length indexes spans where
 deleted idx mem inside := by
  obtain ⟨span, held, first, last, bounds, within⟩ := cut.found (2 * idx) (by omega) (.inl (by simpa using mem))
  exact ⟨span, held, bounds.contains within.1 within.2⟩
 kept idx missing inside span mem := by
  obtain ⟨first, last, bounds, gone⟩ := cut.bounds span mem
  exact bounds.apart (by omega) fun within => missing (by simpa [Gone] using gone (2 * idx) within.1 within.2)
 whole item inside span mem := by
  obtain ⟨first, last, bounds, -⟩ := cut.bounds span mem
  by_cases within : first <= item ∧ item < last
  · exact .inl (bounds.contains within.1 within.2)
  · exact .inr (bounds.apart inside within)
 left := by
  rcases Nat.eq_zero_or_pos length with rfl | positive
  · rfl
  · have left := left_from order cut (length - 1) (show 0 + (length - 1 + 1) = length by omega)
    rwa [show 2 * (length - 1) + 1 = 2 * length - 1 by omega, Nat.sub_add_cancel positive, <- List.range_eq_range',
     <- List.range_eq_range'] at left

end

/-! ## The spans to delete -/

namespace ImportDeletion

/-- The runs go over the members in their order, each as far as it can. -/
structure Runs (runs : List (Nat × Nat)) (mem : Nat -> Prop) : Prop where
 apart : runs.Pairwise fun left right => left.2 + 1 < right.1
 ordered : ∀ run ∈ runs, run.1 <= run.2
 mem_iff : ∀ idx, mem idx ↔ ∃ run ∈ runs, run.1 <= idx ∧ idx <= run.2

lemma eq_or_apart {runs : List (Nat × Nat)} {left right : Nat × Nat} (apart : runs.Pairwise fun left right => left.2 + 1 < right.1)
  (held : left ∈ runs) (held' : right ∈ runs) : left = right ∨ left.2 + 1 < right.1 ∨ right.2 + 1 < left.1 := by
 induction apart with
 | nil => contradiction
 | cons first _ ih => grind

lemma runsFrom_runs {first last : Nat} {rest : List Nat} (le : first <= last) (rises : (last :: rest).Pairwise (· < ·)) :
  Runs (runsFrom first last rest) (fun idx => first <= idx ∧ idx <= last ∨ idx ∈ rest) ∧
   ∀ run ∈ runsFrom first last rest, first <= run.1 := by
 induction rest generalizing first last with
 | nil =>
  refine ⟨⟨List.pairwise_singleton _ _, by simpa [runsFrom], fun idx => ?_⟩, by simp [runsFrom]⟩
  simp [runsFrom]
 | cons idx rest ih =>
  have ⟨above, rises⟩ := List.pairwise_cons.mp rises
  have less := above idx List.mem_cons_self
  rw [runsFrom, if_neg (by simp; omega)]
  split
  next follows =>
   obtain rfl := eq_of_beq follows
   have ⟨runs, least⟩ := @ih first _ (by omega) rises
   refine ⟨{runs with mem_iff := fun idx => Iff.trans ?_ (runs.mem_iff idx)}, least⟩
   rw [List.mem_cons]
   grind
  next gap =>
   have gap : last + 1 ≠ idx := by simpa using gap
   have ⟨runs, least⟩ := ih (Nat.le_refl idx) rises
   refine ⟨⟨List.pairwise_cons.mpr ⟨fun run mem => ?_, runs.apart⟩, ?_, fun other => ?_⟩, ?_⟩
   · have := least run mem
     omega
   · exact List.forall_mem_cons.mpr ⟨le, runs.ordered⟩
   · have iff := runs.mem_iff other
     simp only [List.mem_cons, or_and_right, exists_or, exists_eq_left, <- iff]
     grind
   · refine List.forall_mem_cons.mpr ⟨Nat.le_refl _, fun run mem => ?_⟩
     have := least run mem
     omega

lemma runs_runs {indexes : List Nat} (rises : indexes.Pairwise (· < ·)) : Runs (runs indexes) (· ∈ indexes) := by
 cases indexes with
 | nil => exact ⟨.nil, nofun, by simp [runs]⟩
 | cons first rest =>
  have runs := (runsFrom_runs (Nat.le_refl first) rises).1
  refine {runs with mem_iff := fun idx => Iff.trans ?_ (runs.mem_iff idx)}
  rw [List.mem_cons]
  grind

/-- A run takes the names in it with the comma behind each of them, or the comma before them if they are the last ones. -/
def Takes (length : Nat) (run : Nat × Nat) (item : Nat) : Prop :=
 (if length <= run.2 + 1 then 2 * run.1 - 1 else 2 * run.1) <= item ∧ item < min (2 * run.2 + 2) (2 * length - 1)

lemma Runs.gone_iff {runs : List (Nat × Nat)} {indexes : List Nat} (found : Runs runs (· ∈ indexes))
  (inside : item + 1 < 2 * length) : Gone length indexes item ↔ ∃ run ∈ runs, Takes length run item := by
 have taken {run : Nat × Nat} (least : run.1 <= item / 2) (most : item / 2 <= run.2) : Takes length run item := by
  rw [Takes]
  grind
 constructor
 · rintro (mem | ⟨odd, all⟩)
   · obtain ⟨run, held, least, most⟩ := (found.mem_iff _).mp mem
     exact ⟨run, held, taken least most⟩
   obtain ⟨run, held, least, most⟩ := (found.mem_iff (item / 2 + 1)).mp (all _ (by omega) (by omega))
   refine ⟨run, held, ?_⟩
   rcases Nat.lt_or_eq_of_le least with less | starts
   · exact taken (Nat.le_of_lt_succ less) (by omega)
   -- The run that starts behind the comma goes on to the last name.
   have ends : length <= run.2 + 1 := by
    by_contra early
    obtain ⟨other, held', least', most'⟩ := (found.mem_iff (run.2 + 1)).mp (all _ (by omega) (by omega))
    rcases eq_or_apart found.apart held held' with rfl | before | behind <;> omega
   rw [Takes]
   grind
 · rintro ⟨run, held, least, most⟩
   by_cases within : run.1 <= item / 2
   · exact .inl ((found.mem_iff _).mpr ⟨run, held, within, by omega⟩)
   · split at least
     · exact .inr ⟨by omega, fun idx more bound => (found.mem_iff idx).mpr ⟨run, held, by omega, by omega⟩⟩
     · omega

end ImportDeletion

/-! ## Names among tokens -/

variable {text : Text} {cells : Bool} {tokens : Array Token} {cmts : Array Cmt} {pos : Nat} {name follower : Node}
 {names : Nodes} {word : Nat -> Nat}

def tokenAt (tokens : Array Token) (idx : Nat) : Token := tokens.getD idx default

lemma tokenAt_eq (within : idx < tokens.size) : tokenAt tokens idx = tokens[idx] := by simp [tokenAt, within]

/-- A word or a dot, as the parts of a name are. -/
def TokenKind.isPart (kind : TokenKind) : Bool := kind matches .ident _ | .kw _ | .dot

lemma TokenKind.Fits.lt {kind : TokenKind} {start stop : Nat} (fits : kind.Fits text start stop)
  (cat : kind.isPart ∨ kind = .comma) : start < stop := by
 cases kind
 all_goals first | exact fits | simp [isPart] at cat

lemma TokenKind.eq_comma {kind : TokenKind} (cat : kind.cat = .comma) : kind = .comma := by
 cases kind
 all_goals first | rfl | contradiction

/-- The tokens from an index on are the last word of a name, a comma and the first word of the name that follows. -/
structure Joins (tokens : Array Token) (idx : Nat) (name follower : Node) : Prop where
 word : (tokenAt tokens idx).kind.isPart
 stop : name.stop = (tokenAt tokens idx).stop
 comma : (tokenAt tokens (idx + 1)).kind = .comma
 next : (tokenAt tokens (idx + 2)).kind.isPart
 start : follower.start = (tokenAt tokens (idx + 2)).start

/-- Names with a comma between neighbours, given where the last word of each is. -/
structure Listed (tokens : Array Token) (names : Nodes) (word : Nat -> Nat) : Prop where
 wide : ∀ name ∈ names, name.start < name.stop
 joined : ∀ idx name follower, names[idx]? = some name -> names[idx + 1]? = some follower -> Joins tokens (word idx) name follower

/-- The names of a list and the commas behind them. -/
def listPart (tokens : Array Token) (names : Nodes) (word : Nat -> Nat) (item : Nat) : Span :=
 if item % 2 = 0 then (names[item / 2]?.map (·.span)).getD ⟨0, 0⟩ else (tokenAt tokens (word (item / 2) + 1)).span

lemma listPart_name (inside : idx < names.length) : listPart tokens names word (2 * idx) = names[idx].span := by
 simp [listPart, inside]

lemma listPart_comma : listPart tokens names word (2 * idx + 1) = (tokenAt tokens (word idx + 1)).span := by
 simp [listPart, show (2 * idx + 1) / 2 = idx by omega]

lemma Listed.joins (listed : Listed tokens names word) (further : idx + 1 < names.length) :
  Joins tokens (word idx) names[idx] names[idx + 1] :=
 listed.joined idx _ _ (List.getElem?_eq_getElem _) (List.getElem?_eq_getElem _)

section
variable (laid : Cover text cells tokens cmts pos)
include laid
lemma Cover.le_start (less : idx < next) (within : next < tokens.size) :
  (tokenAt tokens idx).stop <= (tokenAt tokens next).start := by
 rw [tokenAt_eq within, tokenAt_eq (Nat.lt_trans less within)]
 exact List.pairwise_iff_getElem.mp laid.ordered idx next (Nat.lt_trans less within) within less

/-- The parts of names and the commas have a width. -/
lemma Cover.nonempty (cat : (tokenAt tokens idx).kind.isPart ∨ (tokenAt tokens idx).kind = .comma) :
  idx < tokens.size ∧ (tokenAt tokens idx).start < (tokenAt tokens idx).stop := by
 have within : idx < tokens.size := by
  by_contra beyond
  have invalid : (tokenAt tokens idx).kind = .invalid := by simpa [tokenAt, Array.getD, beyond] using by rfl
  simp [invalid, TokenKind.isPart] at cat
 exact ⟨within, (laid.fits (tokenAt tokens idx) (by simp [tokenAt_eq within])).lt cat⟩

lemma Listed.inOrder (listed : Listed tokens names word) : InOrder (listPart tokens names word) names.length where
 wide item inside := by
  obtain ⟨idx, rfl | rfl⟩ : ∃ idx, item = 2 * idx ∨ item = 2 * idx + 1 := ⟨item / 2, by omega⟩
  · rw [listPart_name (show idx < names.length by omega)]
    exact listed.wide _ (List.getElem_mem _)
  · rw [listPart_comma]
    exact (laid.nonempty (.inr (listed.joins (by omega)).comma)).2
 next item inside := by
  obtain ⟨idx, rfl | rfl⟩ : ∃ idx, item = 2 * idx ∨ item = 2 * idx + 1 := ⟨item / 2, by omega⟩
  · have joins := listed.joins (show idx + 1 < names.length by omega)
    rw [listPart_name (show idx < names.length by omega), listPart_comma]
    exact Nat.le_trans (Nat.le_of_eq joins.stop) (laid.le_start (Nat.lt_succ_self _) (laid.nonempty (.inr joins.comma)).1)
  · have joins := listed.joins (show idx + 1 < names.length by omega)
    rw [listPart_comma, show 2 * idx + 1 + 1 = 2 * (idx + 1) from rfl, listPart_name (show idx + 1 < names.length by omega)]
    exact Nat.le_trans (laid.le_start (Nat.lt_succ_self _) (laid.nonempty (.inl joins.next)).1) (Nat.le_of_eq joins.start.symm)

end
namespace ImportDeletion

lemma firstFrom?_eq {test : Token -> Bool} (within : idx < tokens.size) : TokenTable.firstFrom? tokens test idx =
  if test (tokenAt tokens idx) then some idx else TokenTable.firstFrom? tokens test (idx + 1) := by
 rw [TokenTable.firstFrom?, show tokens.size - idx = tokens.size - (idx + 1) + 1 by omega, List.range'_succ, List.find?_cons,
  Array.getElem?_eq_getElem within, tokenAt_eq within, Option.any_some]
 cases test tokens[idx] <;> rfl

variable (laid : Cover text cells tokens cmts pos)
include laid
lemma idxAt?_eq (within : idx < tokens.size) (least : (tokenAt tokens idx).start <= off)
  (most : off <= (tokenAt tokens idx).stop) (last : idx + 1 < tokens.size -> off < (tokenAt tokens (idx + 1)).start) :
  TokenTable.idxAt? tokens off = some idx := by
 have starts {idx : Nat} (within : idx < tokens.size) : SpanTable.startAt Token.span tokens idx = (tokenAt tokens idx).start := by
  simp [SpanTable.startAt, tokenAt, Array.getD, within, Token.start]
 have rises : SpanTable.Rises Token.span tokens := fun left right le within => by
  rw [starts within, starts (Nat.lt_of_le_of_lt le within)]
  rcases Nat.lt_or_eq_of_le le with less | rfl
  · exact Nat.le_trans (Nat.le_add_right _ _) (laid.le_start less within)
  · exact Nat.le_refl _
 refine SpanTable.idxAt?_eq rises ⟨within, starts within ▸ least, fun next less within => ?_⟩ ?_
 · have further : idx + 1 < tokens.size := Nat.lt_of_le_of_lt less within
   exact Nat.lt_of_lt_of_le (last further) (starts further ▸ rises _ next less within)
 · have final : tokens.size - 1 < tokens.size := by omega
   have stop : SpanTable.stop Token.span tokens = (tokenAt tokens (tokens.size - 1)).stop := by
    rw [SpanTable.stop, Array.back?_eq_getElem?, Array.getElem?_eq_getElem final, tokenAt_eq final]
    rfl
   rw [stop]
   rcases Nat.lt_or_eq_of_le (Nat.le_sub_one_of_lt within) with less | same
   · exact Nat.le_trans most (Nat.le_trans (laid.le_start less final) (Nat.le_add_right _ _))
   · exact same ▸ most

/-- The search for the comma behind a name starts at the comma, or at the word before it if they do not touch. It finds
the comma or gives up. -/
lemma idxAfter?_comma (joins : Joins tokens idx name follower) :
  (TokenTable.idxAfter? tokens name.stop (·.cat == .comma)).toOption.join.bind (tokens[·]?) ∈
   [none, some (tokenAt tokens (idx + 1))] := by
 have ⟨within, wide⟩ := laid.nonempty (.inr joins.comma)
 have cat : (tokenAt tokens (idx + 1)).cat = .comma := congrArg TokenKind.cat joins.comma
 have ordered := laid.le_start (Nat.lt_succ_self idx) within
 have found : (TokenTable.idxAt? tokens name.stop).map (TokenTable.firstFrom? tokens (·.cat == .comma)) =
   some (some (idx + 1)) := by
  rw [joins.stop]
  by_cases touches : (tokenAt tokens (idx + 1)).start <= (tokenAt tokens idx).stop
  · rw [Nat.le_antisymm ordered touches, idxAt?_eq laid within (Nat.le_refl _) (Nat.le_of_lt wide) fun further =>
     Nat.lt_of_lt_of_le wide (laid.le_start (Nat.lt_succ_self _) further)]
    simp [firstFrom?_eq within, cat]
  · have least : (tokenAt tokens idx).start <= (tokenAt tokens idx).stop := Nat.le_add_right _ _
    rw [idxAt?_eq laid (Nat.lt_of_succ_lt within) least (Nat.le_refl _) fun _ => Nat.lt_of_not_le touches]
    have other : (tokenAt tokens idx).cat ≠ .comma := fun same => by
     simpa [TokenKind.eq_comma same, TokenKind.isPart] using joins.word
    simp [firstFrom?_eq (Nat.lt_of_succ_lt within), other, firstFrom?_eq within, cat]
 rw [TokenTable.idxAfter?, found, Except.toOption, Option.join_some, Option.join_some, Option.filter_some]
 split <;> simp [tokenAt_eq within]

/-- The comments before a name lie behind the comma. -/
lemma cmt_between {cmt : Cmt} (joins : Joins tokens idx name follower)
  (mem : cmt ∈ (tokenAt tokens (idx + 2)).cmts) :
  (tokenAt tokens (idx + 1)).stop <= cmt.span.stop ∧ cmt.span.stop <= follower.start := by
 have within := (laid.nonempty (.inl joins.next)).1
 have commas := List.pairwise_iff_getElem.mp laid.remarked.commas _ _ (Nat.lt_of_succ_lt within) within (Nat.lt_succ_self _)
 have later := commas (by simpa [<- tokenAt_eq] using joins.comma) cmt (by simpa [tokenAt_eq within] using mem)
 have held := tokenAt_eq within ▸ Array.getElem_mem within
 rw [joins.start, tokenAt_eq (Nat.lt_of_succ_lt within)]
 refine ⟨Nat.le_trans later ?_, laid.remarked.earlier _ held cmt mem⟩
 exact Nat.le_trans (Nat.sub_le _ _) (Nat.le_add_right _ _)

omit laid

lemma bounds_ofBounds (less : first < last) (inside : last < 2 * length) (starts : Splits part length low first)
  (stops : Splits part length high last) : Bounds part length (.ofBounds low high) first last := by
 have stop : (Span.ofBounds low high).stop = high := Nat.add_sub_cancel' (starts.le stops less inside)
 exact ⟨less, inside, starts, stop.symm ▸ stops⟩

lemma cut_ofBounds {gone : Nat -> Prop} (less : first < last) (inside : last < 2 * length) (starts : Splits part length low first)
  (stops : Splits part length high last) (iff : ∀ item, gone item ↔ first <= item ∧ item < last) :
  Cut part length [.ofBounds low high] gone := by
 have bounds := bounds_ofBounds less inside starts stops
 refine ⟨fun span mem => ?_, fun item _ goes => ?_⟩
 · obtain rfl := List.mem_singleton.mp mem
   exact ⟨_, _, bounds, fun item least most => (iff item).mpr ⟨least, most⟩⟩
 · exact ⟨_, List.mem_singleton_self _, _, _, bounds, (iff item).mp goes⟩

variable (listed : Listed tokens names word)
include laid listed
lemma splits_name (inside : idx < names.length) :
  Splits (listPart tokens names word) names.length names[idx].start (2 * idx) ∧
  Splits (listPart tokens names word) names.length names[idx].stop (2 * idx + 1) := by
 have start := (listed.inOrder laid).start (show 2 * idx + 1 < 2 * names.length by omega)
 have stop := (listed.inOrder laid).stop (show 2 * idx + 1 < 2 * names.length by omega)
 rw [listPart_name inside] at start stop
 exact ⟨start, stop⟩

/-- What is taken away behind a name to the end of the list. -/
lemma tailSpans_cut (further : idx + 1 < names.length) (ends : last + 1 = names.length) :
  (tailSpans tokens names[idx] names[idx + 1] names[last]).Pairwise (fun left right => left.stop <= right.start) ∧
   Cut (listPart tokens names word) names.length (tailSpans tokens names[idx] names[idx + 1] names[last])
    (Takes names.length (idx + 1, last)) := by
 have ⟨_, stops⟩ := splits_name laid listed (show last < names.length by omega)
 have ⟨starts, _⟩ := splits_name laid listed further
 have ⟨_, before⟩ := splits_name laid listed (Nat.lt_of_succ_lt further)
 have joins := listed.joins further
 have ⟨size, wide⟩ := laid.nonempty (.inl joins.next)
 have takes (item : Nat) : Takes names.length (idx + 1, last) item ↔ 2 * idx + 1 <= item ∧ item < 2 * last + 1 := by
  rw [Takes]
  grind
 unfold tailSpans
 rw [joins.start, idxAt?_eq laid size (Nat.le_refl _) (Nat.le_of_lt wide) (fun further =>
   Nat.lt_of_lt_of_le wide (laid.le_start (Nat.lt_succ_self _) further)), Option.bind_some, Array.getElem?_eq_getElem size,
  <- tokenAt_eq, Option.elim_some]
 have whole : [Span.ofBounds names[idx].stop names[last].stop].Pairwise (fun left right => left.stop <= right.start) ∧
   Cut (listPart tokens names word) names.length [.ofBounds names[idx].stop names[last].stop]
    (Takes names.length (idx + 1, last)) :=
  ⟨List.pairwise_singleton _ _, cut_ofBounds (by omega) (by omega) before stops takes⟩
 have found := idxAfter?_comma laid joins
 simp only [List.mem_cons, List.not_mem_nil, or_false] at found
 rcases found with found | found <;> rw [found] <;> dsimp only <;> split
 · exact whole
 · exact whole
 · exact whole
 next cmt held =>
  have ⟨after, earlier⟩ := cmt_between laid joins (Array.mem_of_back? held)
  have comma := (listed.inOrder laid).stop (show 2 * idx + 1 + 1 < 2 * names.length by omega)
  rw [listPart_comma] at comma
  have head := bounds_ofBounds (Nat.lt_succ_self _) (by omega) before comma
  have tail := bounds_ofBounds (by omega) (by omega) (comma.between starts after earlier) stops
  refine ⟨List.pairwise_pair.mpr ?_, ?_, fun item _ taken => ?_⟩
  · have ordered := before.le comma (Nat.lt_succ_self _) (by omega)
    exact Nat.le_trans (Nat.le_of_eq (Nat.add_sub_cancel' ordered)) after
  · simp only [List.forall_mem_cons, takes]
    exact ⟨⟨_, _, head, by omega⟩, ⟨_, _, tail, by omega⟩, nofun⟩
  · have within := (takes item).mp taken
    rcases Nat.lt_or_ge item (2 * idx + 2) with early | late
    · exact ⟨_, List.mem_cons_self, _, _, head, within.1, early⟩
    · exact ⟨_, List.mem_cons_of_mem _ (List.mem_singleton_self _), _, _, tail, late, within.2⟩

lemma runSpans_cut (ordered : first <= last) (inside : last < names.length) :
  (runSpans tokens names.toArray first last).Pairwise (fun left right => left.stop <= right.start) ∧
   Cut (listPart tokens names word) names.length (runSpans tokens names.toArray first last) (Takes names.length (first, last)) := by
 have begins : first < names.length := Nat.lt_of_le_of_lt ordered inside
 have ⟨starts, _⟩ := splits_name laid listed begins
 have ⟨_, stops⟩ := splits_name laid listed inside
 simp only [runSpans, List.getElem?_toArray, List.size_toArray, List.getElem?_eq_getElem begins, List.getElem?_eq_getElem inside,
  Bool.and_eq_true, beq_iff_eq]
 split
 next all =>
  refine ⟨List.pairwise_singleton _ _, cut_ofBounds (by omega) (by omega) starts stops fun item => ?_⟩
  rw [Takes]
  grind
 next some =>
  split
  next ends =>
   obtain ⟨idx, rfl⟩ : ∃ idx, first = idx + 1 := Nat.exists_eq_succ_of_ne_zero (by omega)
   rw [Nat.add_sub_cancel, List.getElem?_eq_getElem (Nat.lt_of_succ_lt begins)]
   exact tailSpans_cut laid listed begins ends
  next early =>
   have further : last + 1 < names.length := by omega
   have ⟨stops, _⟩ := splits_name laid listed further
   rw [List.getElem?_eq_getElem further]
   refine ⟨List.pairwise_singleton _ _, cut_ofBounds (by omega) (by omega) starts stops fun item => ?_⟩
   rw [Takes]
   grind

lemma spans_cut (rises : indexes.Pairwise (· < ·)) (inside : ∀ idx ∈ indexes, idx < names.length) :
  (spans tokens names indexes).Pairwise (fun left right => left.stop <= right.start) ∧
   Cut (listPart tokens names word) names.length (spans tokens names indexes) (Gone names.length indexes) := by
 have found := runs_runs rises
 have cut (run : Nat × Nat) (mem : run ∈ runs indexes) :=
  have ordered := found.ordered run mem
  runSpans_cut laid listed ordered (inside _ ((found.mem_iff run.2).mpr ⟨run, mem, ordered, Nat.le_refl _⟩))
 refine ⟨?_, fun span mem => ?_, fun item within gone => ?_⟩
 · refine List.pairwise_flatMap.mpr ⟨fun run mem => (cut run mem).1, ?_⟩
   refine found.apart.imp_of_mem fun {left right} here there apart span mem other member' => ?_
   obtain ⟨_, last, bounds, takes⟩ := (cut left here).2.bounds span mem
   obtain ⟨first, _, bounds', takes'⟩ := (cut right there).2.bounds other member'
   have less := bounds.less
   have most := (takes (last - 1) (by omega) (by omega)).2
   have least := (takes' first (Nat.le_refl _) bounds'.less).1
   exact bounds.stop.le bounds'.start (by grind) (Nat.lt_trans bounds'.less bounds'.inside)
 · obtain ⟨run, held, mem⟩ := List.mem_flatMap.mp mem
   obtain ⟨first, last, bounds, takes⟩ := (cut run held).2.bounds span mem
   refine ⟨first, last, bounds, fun item least most => (found.gone_iff ?_).mpr ⟨run, held, takes item least most⟩⟩
   exact Nat.lt_of_le_of_lt most bounds.inside
 · obtain ⟨run, held, takes⟩ := (found.gone_iff within).mp gone
   obtain ⟨span, mem, bounds⟩ := (cut run held).2.found item within takes
   exact ⟨span, List.mem_flatMap.mpr ⟨run, held, mem⟩, bounds⟩

omit laid listed

/-- The spans to delete names are in order and leave the other names with one comma between neighbours. -/
theorem spans_leave_names {depth : Nat} {res : TokenizedText} (ok : tokenize? text {depth, cells} = .ok res)
  (listed : Listed res.tokens names word) (rises : indexes.Pairwise (· < ·)) (inside : ∀ idx ∈ indexes, idx < names.length) :
  (spans res.tokens names indexes).Pairwise (fun left right => left.stop <= right.start) ∧
   Leaves (listPart res.tokens names word) names.length indexes (spans res.tokens names indexes) := by
 have laid := tokenize?_laid ok
 have ⟨ordered, cut⟩ := spans_cut laid listed rises inside
 exact ⟨ordered, .of_cut (listed.inOrder laid) cut⟩

/-- The second of two names is deleted. -/
theorem spans_leave_names_second : ∃ res, tokenize? (['i', 'm', 'p', 'o', 'r', 't', ' ', 'a', ',', 'b'].map unitOf).toArray
  {depth := 0, cells := false} = .ok res ∧ ∃ names,
   (Parser.readImport.run {src := ⟨#[], {}, res.tokens, res.lines⟩, nextId := 0}).1.importNames = names ∧
   names.length = 2 ∧ Listed res.tokens names (fun _ => 1) ∧
   Leaves (listPart res.tokens names fun _ => 1) names.length [1] (spans res.tokens names [1]) := by
 obtain ⟨res, ok, facts⟩ : ∃ res, tokenize? (['i', 'm', 'p', 'o', 'r', 't', ' ', 'a', ',', 'b'].map unitOf).toArray
   {depth := 0, cells := false} = .ok res ∧
   (fun names : Nodes => (names.map (·.span), [1, 2, 3].map fun idx => ((tokenAt res.tokens idx).span,
     (tokenAt res.tokens idx).kind.isPart, (tokenAt res.tokens idx).cat == .comma)))
    (Parser.readImport.run {src := ⟨#[], {}, res.tokens, res.lines⟩, nextId := 0}).1.importNames =
    ([⟨7, 1⟩, ⟨9, 1⟩], [(⟨7, 1⟩, true, false), (⟨8, 1⟩, false, true), (⟨9, 1⟩, true, false)]) :=
  exists_ok_of_map (by decide +kernel)
 refine ⟨res, ok, _, rfl, ?_⟩
 generalize (Parser.readImport.run _).1.importNames = names at facts ⊢
 simp only [Prod.mk.injEq, List.map_cons, List.map_nil, List.cons.injEq] at facts
 obtain ⟨named, ⟨first, part, _⟩, ⟨_, _, comma⟩, ⟨second, part', _⟩, _⟩ := facts
 simp only [List.map_eq_cons_iff, List.map_eq_nil_iff] at named
 obtain ⟨left, _, rfl, leftSpan, right, _, rfl, rightSpan, rfl⟩ := named
 have listed : Listed res.tokens [left, right] fun _ => 1 := by
  refine ⟨by simp [Node.start, Node.stop, Span.stop, leftSpan, rightSpan], fun idx name follower found found' => ?_⟩
  obtain rfl : idx = 0 := by grind
  obtain ⟨rfl, rfl⟩ : left = name ∧ right = follower := by simpa using And.intro found found'
  refine ⟨part, ?_, TokenKind.eq_comma (eq_of_beq comma), part', ?_⟩
  · simp [Node.stop, Token.stop, leftSpan, first]
  · simp [Node.start, Token.start, rightSpan, second]
 exact ⟨rfl, listed, (spans_leave_names ok listed (by simp) (by simp)).2⟩

end ImportDeletion
end TypeChecker
