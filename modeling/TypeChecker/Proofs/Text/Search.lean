import Mathlib
import TypeChecker.Tree.Facts

/-! Searching a table of spans whose starts do not decrease: the search finds the last item that starts at or
before the position. Searching tokens from there on. -/

namespace TypeChecker.SpanTable
variable {α : Type} [Inhabited α] {spanOf : α -> Span} {items : Array α} {pos : Nat}
def startAt (spanOf : α -> Span) (items : Array α) (idx : Nat) : Nat := (spanOf (items.getD idx default)).start

/-- The starts do not decrease. -/
def Rises (spanOf : α -> Span) (items : Array α) : Prop :=
 ∀ left right, left <= right -> right < items.size -> startAt spanOf items left <= startAt spanOf items right

/-- The item is the last one that starts at or before the position. -/
structure LastUpTo (spanOf : α -> Span) (items : Array α) (pos idx : Nat) : Prop where
 inside : idx < items.size
 reached : startAt spanOf items idx <= pos
 last : ∀ next, idx < next -> next < items.size -> pos < startAt spanOf items next

/-- The search keeps the item that it looks for between its bounds. -/
lemma go_eq (rises : Rises spanOf items) {idx : Nat} (hit : LastUpTo spanOf items pos idx) (fuel : Nat) {low high : Nat}
  (least : low <= idx) (most : idx <= high) (inside : high < items.size) (enough : high - low < fuel) :
  idxAt?.go spanOf items pos fuel low high = idx := by
 induction fuel generalizing low high with
 | zero => omega
 | succ fuel ih =>
  rw [idxAt?.go]
  split
  next wide =>
   obtain ⟨mid, eq⟩ : ∃ mid, mid = low + ((high : Int) - low).toNat / 2 := ⟨_, rfl⟩
   have bounds : low <= mid ∧ mid < high := by omega
   -- The middle is at or before the item exactly if it starts at or before the position.
   have upTo (other : Nat) (inside : other < items.size) : other <= idx ↔ startAt spanOf items other <= pos := by
    constructor
    · exact fun before => Nat.le_trans (rises _ _ before hit.inside) hit.reached
    · intro reached
      by_contra after
      have := hit.last other (by omega) inside
      omega
   have here := upTo mid (by omega)
   have after := upTo (mid + 1) (by omega)
   simp only [<- eq, idxAt?.startOf, Bool.and_eq_true, Bool.or_eq_true, decide_eq_true_eq, Int.ofNat_le, Int.ofNat_lt]
   simp only [startAt] at here after
   split
   · omega
   split
   · rw [show (mid : Int) - 1 = ((mid - 1 : Nat) : Int) by omega]
     exact ih least (by omega) (by omega) (by omega)
   · exact ih (by omega) most inside (by omega)
  next narrow => omega

lemma start_eq (filled : 0 < items.size) : start spanOf items = startAt spanOf items 0 := by
 simp [start, startAt, Array.getD, filled]

lemma idxAt?_eq (rises : Rises spanOf items) {idx : Nat} (hit : LastUpTo spanOf items pos idx)
  (behind : pos <= stop spanOf items) : idxAt? spanOf items pos = some idx := by
 have inside := hit.inside
 have reached : reaches spanOf items pos := by
  have first := Nat.le_trans (rises 0 idx (Nat.zero_le _) inside) hit.reached
  rw [<- start_eq (by omega)] at first
  simp only [reaches, bne_iff_ne, Bool.and_eq_true, decide_eq_true_eq, Int.ofNat_le]
  exact ⟨⟨by omega, first⟩, behind⟩
 rw [idxAt?, if_pos reached, show (items.size : Int) - 1 = ((items.size - 1 : Nat) : Int) by omega,
  go_eq rises hit _ (Nat.zero_le _) (by omega) (by omega) (by omega)]

/-- From the start of a table to its end, the search gives the greatest index of an item that starts at or before the
position, also where empty items share their start. -/
theorem idxAt?_eq_max? (rises : Rises spanOf items) (first : start spanOf items <= pos) (behind : pos <= stop spanOf items) :
  idxAt? spanOf items pos = ((List.range items.size).filter (startAt spanOf items · <= pos)).max? := by
 cases hit : ((List.range items.size).filter (startAt spanOf items · <= pos)).max? with
 | some idx =>
  obtain ⟨mem, most⟩ := List.max?_eq_some_iff.1 hit
  simp only [List.mem_filter, List.mem_range, decide_eq_true_eq] at mem most
  refine idxAt?_eq rises ⟨mem.1, mem.2, fun next after inside => ?_⟩ behind
  by_contra reached
  have := most next ⟨inside, Nat.le_of_not_lt reached⟩
  omega
 | none =>
  -- The first item starts at or before the position, so there is none.
  have empty : items.size = 0 := by
   by_contra filled
   have lacks := List.filter_eq_nil_iff.1 (List.max?_eq_none_iff.1 hit) 0 (List.mem_range.2 (by omega))
   rw [<- start_eq (by omega)] at lacks
   exact lacks (decide_eq_true first)
  simp [idxAt?, reaches, empty]

/-- The last of three items that start at the position. -/
theorem idxAt?_eq_max?_shared :
  let items : Array Span := #[⟨0, 2⟩, ⟨2, 0⟩, ⟨2, 0⟩, ⟨2, 3⟩, ⟨5, 0⟩]
  Rises id items ∧ start id items <= 2 ∧ 2 <= stop id items ∧ idxAt? id items 2 = some 3 := by
 intro items
 have sorted : ∀ right < items.size, ∀ left ≤ right, startAt id items left <= startAt id items right := by decide +kernel
 have rises : Rises id items := fun left right less inside => sorted right inside left less
 have first : start id items <= 2 := by decide +kernel
 have behind : 2 <= stop id items := by decide +kernel
 exact ⟨rises, first, behind, (idxAt?_eq_max? rises first behind).trans (by decide +kernel)⟩

end TypeChecker.SpanTable

namespace TypeChecker

/-- The search finds the first fitting token from the one at the position on, if its index is less than the length of
the text. It fails where it runs past the tokens. -/
theorem TokenTable.idxAfter?_finds (tokens : Array Token) (pos : Int) (test : Token -> Bool) :
  let bound := (SpanTable.length Token.span tokens).toNat
  let Fits idx := ∃ start ≤ idx, idxAt? tokens pos = some start ∧ (tokens[idx]?).any test
  (∀ idx, idxAfter? tokens pos test = .ok (some idx) ↔ idx < bound ∧ Fits idx ∧ ∀ less < idx, ¬Fits less) ∧
   (idxAfter? tokens pos test = .error .idxOutOfRange ↔
    (idxAt? tokens pos).isSome ∧ tokens.size < bound ∧ ∀ idx, ¬Fits idx) := by
 intro bound Fits
 cases stands : idxAt? tokens pos with
 | none => simp [idxAfter?, stands, Fits]
 | some start =>
  have fits idx : Fits idx ↔ idx ∈ List.range' start (tokens.size - start) ∧ (tokens[idx]?).any test := by
   simp only [Fits, stands, Option.some.injEq, List.mem_range'_1]
   grind
  have least idx : firstFrom? tokens test start = some idx ↔ Fits idx ∧ ∀ less < idx, ¬Fits less := by
   simp only [firstFrom?, List.find?_range'_eq_some, fits, List.mem_range'_1]
   grind
  have lacks : firstFrom? tokens test start = none ↔ ∀ idx, ¬Fits idx := by simp [firstFrom?, fits]
  simp only [<- least, <- lacks, idxAfter?, stands, Option.map_some, bound]
  cases firstFrom? tokens test start <;> grind

end TypeChecker
