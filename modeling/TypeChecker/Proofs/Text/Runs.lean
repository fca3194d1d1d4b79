import Mathlib.Tactic.Lemma
import TypeChecker.Token.Scanner

/-! Runs of code units: what a scan over units that pass a test keeps, and runs that stay in one line. -/

namespace TypeChecker
open Scan (isBreak)
namespace Text
variable {text : Text} {stop : Nat} {unit : UInt16} {test : UInt16 -> Bool}
lemma unit_of_size_le {pos : Nat} (outside : text.size <= pos) : text.unit pos = 0 := by
 simp [unit, Array.getD, Nat.not_lt.mpr outside]

lemma lt_size_of_unit_ne {pos : Nat} (nonzero : text.unit pos ≠ 0) : pos < text.size := by
 rcases Nat.lt_or_ge pos text.size with inside | outside
 · exact inside
 · exact absurd (unit_of_size_le outside) nonzero

lemma unit_mem {pos : Nat} (inside : pos < text.size) : text.unit pos ∈ text := by
 rw [unit, Array.getD, dif_pos inside]
 exact Array.getElem_mem inside

@[simp] lemma slice_zero_size (text : Text) : text.slice 0 text.size = text := by simp [slice]

lemma mem_slice {start : Nat} : unit ∈ text.slice start stop ↔ ∃ pos, start <= pos ∧ pos < stop ∧
  pos < text.size ∧ text.unit pos = unit := by
 rw [slice, Array.mem_extract_iff_getElem]
 constructor
 · rintro ⟨index, inside, rfl⟩
   exact ⟨start + index, by omega, by omega, by omega, by simp [Text.unit, show start + index < text.size by omega]⟩
 · rintro ⟨pos, first, last, inside, rfl⟩
   exact ⟨pos - start, by omega, by simp [Text.unit, inside, show start + (pos - start) = pos by omega]⟩

/-! ## Texts of characters -/

lemma pushChar_eq (text : Text) (char : Char) : text.pushChar char = text ++ ofCodePoint char.toNat := by
 rw [pushChar]
 split
 · next low => rw [ofCodePoint, if_pos low, Array.push_eq_append]; rfl
 · rfl

lemma toList_ofString (source : String) :
  (ofString source).toList = source.toList.flatMap fun letter => (ofCodePoint letter.toNat).toList := by
 rw [ofString]
 suffices ∀ (letters : List Char) (text : Text), (letters.foldl pushChar text).toList =
   text.toList ++ letters.flatMap fun letter => (ofCodePoint letter.toNat).toList by
  simpa using this source.toList #[]
 intro letters
 induction letters with
 | nil => simp
 | cons letter letters known => simp [known, pushChar_eq]

/-! ## Runs that satisfy a test -/

private theorem skipBy_go (width : Nat -> Nat) (fuel fuel' pos : Nat) (enough : text.size <= pos + fuel)
  (enough' : text.size <= pos + fuel') : skipBy.go text width fuel pos = skipBy.go text width fuel' pos := by
 induction fuel generalizing fuel' pos with
 | zero =>
  have outside : ¬ pos < text.size := by omega
  cases fuel' <;> simp [skipBy.go, outside]
 | succ fuel ih =>
  cases fuel' with
  | zero =>
   have outside : ¬ pos < text.size := by omega
   simp [skipBy.go, outside]
  | succ fuel' =>
   simp only [skipBy.go]
   split
   · exact ih fuel' _ (by omega) (by omega)
   · rfl

lemma skipBy_eq (text : Text) (width : Nat -> Nat) (pos : Nat) :
  text.skipBy width pos = if pos < text.size ∧ 0 < width pos then text.skipBy width (pos + width pos)
   else pos := by
 rw [skipBy, skipBy_go width _ (text.size - pos + 1) pos (by omega) (by omega), skipBy.go]
 split
 · exact skipBy_go width _ _ _ (by omega) (by omega)
 · rfl

/-- What every single pass keeps holds where the passes end. -/
lemma skipBy_keeps {width : Nat -> Nat} (holds : Nat -> Prop) {off : Nat} (here : holds off)
  (keeps : ∀ pos, holds pos -> pos < text.size -> 0 < width pos -> holds (pos + width pos)) :
  holds (text.skipBy width off) := by
 rw [skipBy_eq]
 split
 next further => exact skipBy_keeps holds (keeps off here further.1 further.2) keeps
 · exact here
termination_by text.size - off

lemma lt_skipBy {width : Nat -> Nat} {pos : Nat} (inside : pos < text.size)
  (further : 0 < width pos) : pos < text.skipBy width pos := by
 rw [skipBy_eq, if_pos ⟨inside, further⟩]
 exact skipBy_keeps (pos < ·) (by omega) fun _ _ _ _ => by omega

/-- The passes end at the end of the text or where there is nothing to pass. -/
lemma skipBy_stops {width : Nat -> Nat} {off : Nat} (inside : text.skipBy width off < text.size) :
  width (text.skipBy width off) = 0 := by
 rw [skipBy_eq] at inside ⊢
 split
 next further =>
  rw [if_pos further] at inside
  exact skipBy_stops inside
 next stays =>
  rw [if_neg stays] at inside
  omega
termination_by text.size - off

lemma skipWhile_stops {off : Nat} (inside : text.skipWhile test off < text.size) :
  test (text.unit (text.skipWhile test off)) = false := by
 have none := skipBy_stops inside
 split at none
 · contradiction
 next fails => exact Bool.eq_false_iff.mpr fails

lemma skipWhile_keeps (holds : Nat -> Prop) {off : Nat} (here : holds off)
  (keeps : ∀ pos, holds pos -> pos < text.size -> test (text.unit pos) -> holds (pos + 1)) :
  holds (text.skipWhile test off) :=
 skipBy_keeps holds here fun pos held inside further => by
  split at further
  next met => simpa [met] using keeps pos held inside met
  · omega

lemma skipWhile_eq (text : Text) (zero : test 0 = false) (pos : Nat) : text.skipWhile test pos =
  if test (text.unit pos) = true then text.skipWhile test (pos + 1) else pos := by
 rw [skipWhile, skipBy_eq]
 cases met : test (text.unit pos) with
 | false => simp
 | true =>
  have inside : pos < text.size := lt_size_of_unit_ne fun eq => by simp [eq, zero] at met
  simp [inside, skipWhile]

lemma le_skipWhile (text : Text) (test : UInt16 -> Bool) (pos : Nat) : pos <= text.skipWhile test pos :=
 skipWhile_keeps (pos <= ·) Nat.le.refl fun _ least _ _ => Nat.le_succ_of_le least

lemma skipWhile_le_size (test : UInt16 -> Bool) {pos : Nat} (inside : pos <= text.size) :
  text.skipWhile test pos <= text.size :=
 skipWhile_keeps (· <= text.size) inside fun _ _ within _ => within

lemma lt_skipWhile {pos : Nat} (zero : test 0 = false) (holds : test (text.unit pos)) :
  pos < text.skipWhile test pos := by
 rw [skipWhile_eq text zero, if_pos holds]
 exact le_skipWhile text test (pos + 1)

lemma skipWhile_eq_iff (zero : test 0 = false) {start : Nat} : text.skipWhile test start = stop ↔ start <= stop ∧
  test (text.unit stop) = false ∧ ∀ pos, start <= pos -> pos < stop -> test (text.unit pos) := by
 rw [skipWhile_eq text zero]
 split
 next met =>
  have inside : start < text.size := lt_size_of_unit_ne fun eq => by simp [eq, zero] at met
  rw [skipWhile_eq_iff zero]
  refine ⟨fun ⟨le, ends, all⟩ => ⟨by omega, ends, fun pos first last => ?_⟩,
   fun ⟨le, ends, all⟩ => ⟨?_, ends, fun pos first => all pos (by omega)⟩⟩
  · rcases Nat.eq_or_lt_of_le first with rfl | after
    · exact met
    · exact all pos after last
  · rcases Nat.eq_or_lt_of_le le with rfl | less
    · simp [met] at ends
    · exact less
 next unmet =>
  refine ⟨fun eq => ?_, fun ⟨le, ends, all⟩ => ?_⟩
  · subst eq
    exact ⟨Nat.le_refl _, by simpa using unmet, fun _ _ _ => by omega⟩
  · rcases Nat.eq_or_lt_of_le le with eq | less
    · exact eq
    · exact absurd (all start Nat.le.refl less) unmet
termination_by text.size - start

lemma skipWhile_eq_size (zero : test 0 = false) {start : Nat} (inside : start <= text.size)
  (all : ∀ unit ∈ text.slice start text.size, test unit) : text.skipWhile test start = text.size :=
 (skipWhile_eq_iff zero).mpr ⟨inside, by rw [unit_of_size_le Nat.le.refl, zero], fun pos first last =>
  all _ (mem_slice.mpr ⟨pos, first, last, last, rfl⟩)⟩

end Text

/-! ## Runs without a line break -/

lemma isBreak_iff : isBreak unit ↔ unit = 0x0D ∨ unit = 0x0A := by simp [isBreak]

/-- A test that fails for line breaks and behind the end of the text. -/
def Plain (test : UInt16 -> Bool) : Prop := test 0 = false ∧ test 0x0D = false ∧ test 0x0A = false
instance (test : UInt16 -> Bool) : Decidable (Plain test) := inferInstanceAs (Decidable (_ ∧ _))

lemma Plain.unbroken (plain : Plain test) (holds : test unit) : isBreak unit = false := by
 cases broken : isBreak unit with
 | false => rfl
 | true => rcases isBreak_iff.mp broken with rfl | rfl <;> simp_all [Plain]

lemma Plain.lt_size {text : Text} (plain : Plain test) {pos : Nat} (holds : test (text.unit pos)) :
  pos < text.size :=
 Text.lt_size_of_unit_ne fun zero => by simp [zero, plain.1] at holds

/-- The units from `start` up to `stop` lie in the text and none of them breaks a line. -/
structure Text.Solid (text : Text) (start stop : Nat) : Prop where
 le : start <= stop
 inside : ∀ pos, start <= pos -> pos < stop -> pos < text.size
 unbroken : ∀ pos, start <= pos -> pos < stop -> isBreak (text.unit pos) = false

namespace Text.Solid
variable {text : Text}
lemma refl (start : Nat) : text.Solid start start := ⟨Nat.le_refl _, fun _ _ _ => by omega, fun _ _ _ => by omega⟩

lemma append {start mid : Nat} (left : text.Solid start mid) (right : text.Solid mid stop) :
  text.Solid start stop := by
 refine ⟨Nat.le_trans left.le right.le, fun pos first last => ?_, fun pos first last => ?_⟩
 all_goals rcases Nat.lt_or_ge pos mid with before | after
 · exact left.inside pos first before
 · exact right.inside pos after last
 · exact left.unbroken pos first before
 · exact right.unbroken pos after last

lemma of_unit {pos : Nat} (inside : pos < text.size)
  (unbroken : isBreak (text.unit pos) = false) : text.Solid pos (pos + 1) := by
 refine ⟨Nat.le_succ _, fun other first last => ?_, fun other first last => ?_⟩
 all_goals obtain rfl : other = pos := by omega
 · exact inside
 · exact unbroken

lemma unit (plain : Plain test) {pos : Nat} (holds : test (text.unit pos)) : text.Solid pos (pos + 1) :=
 of_unit (plain.lt_size holds) (plain.unbroken holds)

/-- Moves on by a unit that passes a plain test. -/
lemma step {start : Nat} (solid : text.Solid start stop) (plain : Plain test) (holds : test (text.unit stop)) :
  text.Solid start (stop + 1) :=
 solid.append (unit plain holds)

lemma skipWhile (text : Text) (unbroken : ∀ unit, test unit -> isBreak unit = false) (pos : Nat) :
  text.Solid pos (text.skipWhile test pos) :=
 skipWhile_keeps (text.Solid pos) (refl pos) fun _ solid inside met =>
  solid.append (of_unit inside (unbroken _ met))

lemma skip {start : Nat} (solid : text.Solid start stop) (plain : Plain test) :
  text.Solid start (text.skipWhile test stop) :=
 solid.append (skipWhile text (fun _ => plain.unbroken) stop)

lemma le_size {start : Nat} (solid : text.Solid start stop) (inside : start <= text.size) : stop <= text.size := by
 rcases Nat.lt_or_ge start stop with nonempty | empty
 · have last := solid.inside (stop - 1) (by omega) (by omega)
   omega
 · omega

end Text.Solid
end TypeChecker
