import Mathlib
import TypeChecker.Types.Signature

/-! How many parameters are positional by their names. -/

namespace TypeChecker
variable {α : Type}
lemma namedPosOnly_getD {isStatic : Bool} {idx : Nat} (later : 0 < idx ∨ isStatic) (pars : List (Par α)) :
  (namedPosOnly isStatic idx pars).getD idx = idx + (pars.takeWhile (·.isNamed Name.isPosOnly)).length := by
 induction pars generalizing idx with
 | nil => rfl
 | cons par pars induction =>
  rw [namedPosOnly, List.takeWhile_cons]
  split
  · rw [Option.getD_some, induction (.inl (Nat.succ_pos idx)), List.length_cons]
    omega
  · rw [if_pos (by grind)]
    rfl

/-- Without a separator these are the first parameters whose names say so. The first of a function that is not static is
left out if it has a name, be the function a method or not. -/
theorem FnForm.posOnlyIdx?_names (data : FnForm α) (unmarked : data.pars.findIdx? Par.isPosSep = none) :
  let start := if !data.flags.staticMeth && data.pars.head?.any (·.isNamed (· != "")) then 1 else 0
  max start (data.posOnlyIdx?.getD 0) =
   start + ((data.pars.drop start).takeWhile (·.isNamed Name.isPosOnly)).length := by
 have byNames : data.posOnlyIdx? = namedPosOnly data.flags.staticMeth 0 data.pars := by simp [posOnlyIdx?, unmarked]
 rw [byNames]
 cases data.flags.staticMeth with
 | true => simpa using namedPosOnly_getD (.inr rfl : 0 < 0 ∨ true) data.pars
 | false =>
  cases data.pars with
  | nil => rfl
  | cons first rest =>
   by_cases named : first.isNamed (· != "")
   · have later := namedPosOnly_getD (.inl Nat.one_pos : 0 < 1 ∨ false) rest
     cases isPos : first.isNamed Name.isPosOnly with
     | true => simp [named, isPos, namedPosOnly, later]
     | false =>
      cases hit : namedPosOnly false 1 rest <;> simp_all [namedPosOnly]
   · have isOpen : first.isNamed Name.isPosOnly = false := by
      have unmatched : Name.isPosOnly "" = false := by simp [Name.isPosOnly]
      cases held : first.name <;> grind [Par.isNamed]
     simp [named, isOpen, namedPosOnly]

theorem FnForm.posOnlyIdx?_names_method :
  let data : FnForm Unit := {pars := [some "self", some "__a", some "b"].map fun name => {cat := .simple, ty := (), name}}
  data.pars.findIdx? Par.isPosSep = none ∧ max 1 (data.posOnlyIdx?.getD 0) = 1 + 1 := by
 intro data
 have unmarked : data.pars.findIdx? Par.isPosSep = none := by decide +kernel
 exact ⟨unmarked, (data.posOnlyIdx?_names unmarked).trans (by cbv)⟩

end TypeChecker
