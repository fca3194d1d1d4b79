import Mathlib.Tactic.Lemma
import TypeChecker.Text.Range

/-! Lines and columns: their order, and how they stand for the offsets of a text that is cut into lines. -/

namespace TypeChecker
namespace Pos

lemma isAtOrBefore_iff {left right : Pos} : left.isAtOrBefore right ↔
  left.line < right.line ∨ left.line = right.line ∧ left.char <= right.char := by
 simp only [isAtOrBefore, compare, bne_iff_ne, ne_eq, Ordering.then_eq_gt, Int.compare_eq_gt, Int.compare_eq_eq]
 omega

lemma isAtOrBefore_trans {first second third : Pos} (left : first.isAtOrBefore second)
  (right : second.isAtOrBefore third) : first.isAtOrBefore third := by
 rw [isAtOrBefore_iff] at *
 omega

lemma isBefore_iff {left right : Pos} : left.isBefore right ↔ ¬right.isAtOrBefore left := by
 simp only [isAtOrBefore_iff, isBefore, compare, beq_iff_eq, Ordering.then_eq_lt, Int.compare_eq_lt, Int.compare_eq_eq]
 omega

end Pos
namespace LineTable
variable (lines : LineTable)
/-- The span of a line. -/
def line (idx : Nat) : Span := lines.getD idx default
lemma getD_eq_line (idx : Nat) : lines.getD idx default = lines.line idx := rfl

/-- The lines lie end to end and make up a text of `size` units; any of them may be empty. -/
structure Tiles (lines : LineTable) (size : Nat) : Prop where
 nonempty : 0 < lines.size
 first : (lines.line 0).start = 0
 joined : ∀ idx, idx + 1 < lines.size -> (lines.line (idx + 1)).start = (lines.line idx).stop
 last : (lines.line (lines.size - 1)).stop = size

/-- The line of an offset: the one that holds it, or the last line for the offset after all of them. -/
structure Holds (lines : LineTable) (off idx : Nat) : Prop where
 inside : idx < lines.size
 first : (lines.line idx).start <= off
 within : off <= (lines.line idx).stop
 last : off = (lines.line idx).stop -> idx + 1 = lines.size

variable {lines : LineTable} {size off : Nat}
namespace Tiles
section
variable (tiles : Tiles lines size)
include tiles
lemma start_eq : SpanTable.start id lines = 0 := by
 have first := tiles.first
 simp only [line, Array.getD_eq_getD_getElem?, Array.getElem?_eq_getElem tiles.nonempty] at first
 simpa [SpanTable.start, Array.getElem?_eq_getElem tiles.nonempty] using first

lemma stop_eq : SpanTable.stop id lines = size := by
 have inside : lines.size - 1 < lines.size := by have := tiles.nonempty; omega
 have last := tiles.last
 simp only [line, Array.getD_eq_getD_getElem?, Array.getElem?_eq_getElem inside] at last
 simpa [SpanTable.stop, Array.back?, Array.getElem?_eq_getElem inside] using last

lemma stop_le_start {left right : Nat} (less : left < right) (inside : right < lines.size) :
  (lines.line left).stop <= (lines.line right).start := by
 induction right with
 | zero => omega
 | succ right ih =>
  rw [tiles.joined right inside]
  rcases Nat.lt_succ_iff_lt_or_eq.mp less with before | rfl
  · exact Nat.le_trans (ih before (by omega)) (Nat.le_add_right _ _)
  · exact Nat.le_refl _

/-- The search keeps the offset between the start of its lowest line and the end of its highest. -/
lemma go_holds (fuel : Nat) {low high : Nat} (inside : high < lines.size) (le : low <= high)
  (enough : high - low < fuel) (first : (lines.line low).start <= off) (last : off < (lines.line high).stop) :
  ∃ idx, lineContaining?.go lines off fuel low high = some idx ∧ Holds lines off idx := by
 induction fuel generalizing low high with
 | zero => omega
 | succ fuel ih =>
  obtain ⟨mid, middle_eq⟩ : ∃ mid, mid = (low + high) / 2 := ⟨_, rfl⟩
  have from_low : low <= mid := by omega
  have to_high : mid <= high := by omega
  rw [lineContaining?.go, if_pos (Int.ofNat_le.mpr le)]
  simp only [Int.toNat_natCast, <- middle_eq, getD_eq_line, Span.contains, Bool.and_eq_true, decide_eq_true_eq, Int.ofNat_le,
   Int.ofNat_lt]
  rcases Nat.lt_or_ge off (lines.line mid).start with early | after
  · -- The offset lies before the middle line, so that line is not the lowest.
    have later : low ≠ mid := fun same => by subst same; omega
    have joined := tiles.joined (mid - 1) (by omega)
    rw [Nat.sub_add_cancel (by omega)] at joined
    have extent : (lines.line mid).start <= (lines.line mid).stop := Nat.le_add_right _ _
    rw [if_neg (by omega), if_neg (by omega), if_neg (by omega), if_pos early,
     show ((mid : Int) - 1) = ((mid - 1 : Nat) : Int) by omega]
    exact ih (by omega) (by omega) (by omega) first (joined ▸ early)
  · rcases Nat.lt_or_ge off (lines.line mid).stop with before | beyond
    · exact ⟨mid, if_pos ⟨after, before⟩, by omega, after, Nat.le_of_lt before, by omega⟩
    · -- The offset lies after the middle line, so that line is not the highest.
      have earlier : mid ≠ high := fun same => by subst same; omega
      have joined := tiles.joined mid (by omega)
      rw [if_neg (by omega), if_neg (by omega), if_neg (by omega), if_neg (by omega)]
      exact ih inside (by omega) (by omega) (by omega) last

lemma lineContaining?_holds (before : off < size) :
  ∃ idx, lineContaining? lines off = some idx ∧ Holds lines off idx := by
 have nonempty := tiles.nonempty
 have reached : SpanTable.reaches id lines off := by
  simp only [SpanTable.reaches, tiles.start_eq, tiles.stop_eq, bne_iff_ne, Bool.and_eq_true, decide_eq_true_eq]
  omega
 rw [lineContaining?, if_pos reached, show (lines.size : Int) - 1 = ((lines.size - 1 : Nat) : Int) by omega]
 exact tiles.go_holds _ (by omega) (by omega) (by omega) (by rw [tiles.first]; omega) (by rwa [tiles.last])

lemma posOf?_eq (nonempty : 0 < size) (inside : off <= size) :
  ∃ idx : Nat, posOf? lines off = .ok ⟨idx, off - (lines.line idx).start⟩ ∧ Holds lines off idx := by
 obtain ⟨idx, hit, holds⟩ : ∃ idx, (if (size : Int) <= off then some (lines.size - 1)
   else lineContaining? lines off) = some idx ∧ Holds lines off idx := by
  rcases Nat.lt_or_eq_of_le inside with before | rfl
  · rw [if_neg (by omega)]
    exact tiles.lineContaining?_holds before
  · have ends := tiles.last
    have some_line := tiles.nonempty
    exact ⟨_, if_pos (Int.le_refl _), by omega, by rw [<- ends]; exact Nat.le_add_right _ _, Nat.le_of_eq ends.symm,
     fun _ => by omega⟩
 have within := holds.within
 have first := holds.first
 rw [Span.stop] at within
 refine ⟨idx, ?_, holds⟩
 simp only [posOf?, tiles.stop_eq, if_neg (Nat.ne_of_gt nonempty), hit, getD_eq_line]
 rw [show max 0 (min ((lines.line idx).length : Int) (off - (lines.line idx).start)) =
  off - (lines.line idx).start by omega]

end

lemma offsetOf?_eq {idx : Nat} (holds : Holds lines off idx) :
  offsetOf? lines ⟨idx, off - (lines.line idx).start⟩ = .ok (some off) := by
 have inside := holds.inside
 have item : SpanTable.itemAt? lines idx = .ok (lines.line idx) := by
  simp [SpanTable.itemAt?, line, Array.getElem?_eq_getElem inside, Array.getD_eq_getD_getElem?]
 simp only [offsetOf?, if_neg (show ¬(lines.size : Int) <= idx by omega), item]
 exact congrArg (fun off => Except.ok (some off)) (by omega)

lemma isBefore_of_holds (tiles : Tiles lines size) {other idx next : Nat} (less : off < other)
  (holds : Holds lines off idx) (follows : Holds lines other next) :
  (⟨idx, off - (lines.line idx).start⟩ : Pos).isBefore ⟨next, other - (lines.line next).start⟩ := by
 have first := holds.first
 have inside := holds.inside
 have within := follows.within
 have last := follows.last
 rw [Pos.isBefore_iff, Pos.isAtOrBefore_iff]
 rcases Nat.lt_trichotomy idx next with before | rfl | after
 · dsimp only; omega
 · dsimp only; omega
 · have apart := tiles.stop_le_start after inside
   omega

end Tiles

/-- Over a text that its lines make up, an offset and its position stand for each other, and they have the same order. -/
theorem posOf?_faithful {text : Text} (tiles : Tiles lines text.size) (nonempty : 0 < text.size) :
  (∀ off : Nat, off <= text.size ->
   ∃ pos, posOf? lines off = .ok pos ∧ offsetOf? lines pos = .ok (some off)) ∧
  ∀ left right : Nat, left < right -> right <= text.size ->
   ∃ first second, posOf? lines left = .ok first ∧ posOf? lines right = .ok second ∧ first.isBefore second := by
 refine ⟨fun off inside => ?_, fun left right less inside => ?_⟩
 · obtain ⟨idx, hit, holds⟩ := tiles.posOf?_eq nonempty inside
   exact ⟨_, hit, Tiles.offsetOf?_eq holds⟩
 · obtain ⟨idx, hit, holds⟩ := tiles.posOf?_eq nonempty (Nat.le_trans (Nat.le_of_lt less) inside)
   obtain ⟨next, reached, follows⟩ := tiles.posOf?_eq nonempty inside
   exact ⟨_, _, hit, reached, tiles.isBefore_of_holds less holds follows⟩

/-- Lines that end in two units and in one, and an empty last line. -/
theorem posOf?_faithful_three : let text : Text := (['a', 'b', '\r', '\n', 'c', '\n'].map unitOf).toArray
  let lines : LineTable := #[⟨0, 4⟩, ⟨4, 2⟩, ⟨6, 0⟩]
  Tiles lines text.size ∧ 0 < text.size ∧ (∃ pos, posOf? lines 5 = .ok pos ∧ offsetOf? lines pos = .ok (some 5)) ∧
   ∃ first second, posOf? lines 3 = .ok first ∧ posOf? lines 6 = .ok second ∧ first.isBefore second := by
 intro text lines
 have tiles : Tiles lines text.size := ⟨by decide, rfl, fun idx inside => by
  obtain rfl | rfl : idx = 0 ∨ idx = 1 := by
   have : lines.size = 3 := rfl
   omega
  all_goals rfl, rfl⟩
 obtain ⟨back, ordered⟩ := posOf?_faithful tiles (by decide)
 exact ⟨tiles, by decide, back 5 (by decide), ordered 3 6 (by decide) (by decide)⟩

end LineTable
end TypeChecker
