import Mathlib.Tactic.Lemma
import TypeChecker.Parser.Pattern

/-! Names bound twice. The check of a case pattern finds a repeated target exactly if the pattern binds a name at two
places that do not lie in different alternatives of one pattern. -/

namespace TypeChecker.Parser

/-- The pattern binds the name itself. -/
inductive Owns : Node -> String -> Prop
 | as (kind : node.kind = .patAs pats (some tgt)) : Owns node tgt.nameVal
 | capture (kind : node.kind = .patCapture tgt isStar false) : Owns node tgt.nameVal
 | rest (kind : node.kind = .patExpandEnt tgt) : Owns node tgt.nameVal

/-- The parts of a pattern. Those of an `as` pattern are alternatives. -/
inductive Part : Node -> Nat -> Node -> Prop
 | item (kind : node.kind = .patSequence pats starIdx) (hit : pats[idx]? = some pat) : Part node idx pat
 | entry (kind : node.kind = .patMapping pats) (hit : pats[idx]? = some pat) : Part node idx pat
 | arg (kind : node.kind = .patCls cls pats) (hit : pats[idx]? = some pat) : Part node idx pat
 | choice (kind : node.kind = .patAs pats tgt) (hit : pats[idx]? = some pat) : Part node idx pat
 | argVal (kind : node.kind = .patClsArg label pat) : Part node 0 pat
 | key (kind : node.kind = .patKeyEnt pat val) : Part node 0 pat
 | val (kind : node.kind = .patKeyEnt key pat) : Part node 1 pat

/-- The pattern binds the name at a place below it, which is given by the way down. -/
inductive Binds : Node -> List Nat -> String -> Prop
 | own (owns : Owns node name) : Binds node [] name
 | within (part : Part node idx pat) (binds : Binds pat place name) : Binds node (idx :: place) name

/-- The places lie in different alternatives of one pattern. -/
inductive Apart : Node -> List Nat -> List Nat -> Prop
 | here (kind : node.kind = .patAs pats tgt) (differ : idx ≠ other) : Apart node (idx :: place) (other :: otherPlace)
 | within (part : Part node idx pat) (apart : Apart pat place other) : Apart node (idx :: place) (idx :: other)

def BindsTwice (node : Node) : Prop :=
 ∃ name place other, Binds node place name ∧ Binds node other name ∧ place ≠ other ∧ ¬Apart node place other

def Names (node : Node) (name : String) : Prop := ∃ place, Binds node place name

/-- A sequence of two captures of one name. -/
example (name : Node) : BindsTwice {id := 0, span := default, kind := .patSequence (.replicate 2
  {id := 0, span := default, kind := .patCapture name false false}) none} :=
 ⟨_, [0], [1], .within (.item rfl rfl) (.own (.capture rfl)), .within (.item rfl rfl) (.own (.capture rfl)), by decide, nofun⟩

lemma owns_iff {node : Node} {name : String} : Owns node name ↔ ∃ tgt ∈ (ownTgt? node).toList, name = tgt.nameVal := by
 constructor
 · rintro (kind | kind | kind) <;> simp [ownTgt?, kind]
 · unfold ownTgt?
   rintro ⟨tgt, isOwn, rfl⟩
   grind [Owns]

lemma part_iff {node pat : Node} {idx : Nat} : Part node idx pat ↔ (subpats node)[idx]? = some pat := by
 constructor
 · rintro (⟨kind, hit⟩ | ⟨kind, hit⟩ | ⟨kind, hit⟩ | ⟨kind, hit⟩ | kind | kind | kind) <;> simp_all [subpats]
 · unfold subpats
   intro hit
   split at hit <;> grind [Part]

lemma isChoice_iff {node : Node} : isChoice node ↔ ∃ pats tgt, node.kind = .patAs pats tgt := by
 unfold isChoice
 split <;> simp_all

lemma names_iff {node : Node} {name : String} :
  Names node name ↔ (∃ tgt ∈ (ownTgt? node).toList, name = tgt.nameVal) ∨ ∃ pat ∈ subpats node, Names pat name := by
 rw [<- owns_iff]
 constructor
 · rintro ⟨_, owns | ⟨part, binds⟩⟩
   · exact .inl owns
   · exact .inr ⟨_, List.mem_of_getElem? (part_iff.mp part), _, binds⟩
 · rintro (owns | ⟨pat, isBelow, place, binds⟩)
   · exact ⟨[], .own owns⟩
   · obtain ⟨idx, hit⟩ := List.mem_iff_getElem?.mp isBelow
     exact ⟨idx :: place, .within (part_iff.mpr hit) binds⟩

/-- The two bind no name both. -/
def Separate {α : Type} (names : α -> String -> Prop) (pat other : α) : Prop := ∀ name, names pat name -> ¬names other name

lemma not_bindsTwice_iff {node : Node} : ¬BindsTwice node ↔ (∀ pat ∈ subpats node, ¬BindsTwice pat) ∧
  (∀ tgt ∈ (ownTgt? node).toList, ∀ pat ∈ subpats node, ¬Names pat tgt.nameVal) ∧
  (isChoice node ∨ (subpats node).Pairwise (Separate Names)) := by
 constructor
 · intro once
   refine ⟨fun pat isBelow => ?_, fun tgt isOwn pat isBelow ⟨place, binds⟩ => ?_, Decidable.or_iff_not_imp_left.mpr fun all => ?_⟩
   · rintro ⟨name, place, other, binds, bindsOther, differ, apart⟩
     obtain ⟨idx, hit⟩ := List.mem_iff_getElem?.mp isBelow
     have part := part_iff.mpr hit
     refine once ⟨name, idx :: place, idx :: other, .within part binds, .within part bindsOther, by simpa using differ, ?_⟩
     rintro (⟨_, same⟩ | ⟨partToo, below⟩)
     · exact same rfl
     · cases hit.symm.trans (part_iff.mp partToo)
       exact apart below
   · obtain ⟨idx, hit⟩ := List.mem_iff_getElem?.mp isBelow
     exact once ⟨_, [], idx :: place, .own (owns_iff.mpr ⟨tgt, isOwn, rfl⟩), .within (part_iff.mpr hit) binds, by simp, nofun⟩
   · refine List.pairwise_iff_getElem.mpr fun idx other low high less name ⟨place, binds⟩ ⟨otherPlace, bindsOther⟩ => once
      ⟨name, idx :: place, other :: otherPlace, .within (part_iff.mpr (List.getElem?_eq_getElem low)) binds,
       .within (part_iff.mpr (List.getElem?_eq_getElem high)) bindsOther, by grind, ?_⟩
     rintro (⟨kind, _⟩ | _)
     · exact all (isChoice_iff.mpr ⟨_, _, kind⟩)
     · omega
 · rintro ⟨below, own, all⟩ ⟨name, place, other, owns | @⟨_, idx, pat, _, _, part, binds⟩,
    ownsToo | @⟨_, otherIdx, other, _, _, partOther, bindsOther⟩, differ, apart⟩
   · exact differ rfl
   · obtain ⟨tgt, isOwn, same⟩ := owns_iff.mp owns
     exact own tgt isOwn _ (List.mem_of_getElem? (part_iff.mp partOther)) ⟨_, same ▸ bindsOther⟩
   · obtain ⟨tgt, isOwn, same⟩ := owns_iff.mp ownsToo
     exact own tgt isOwn _ (List.mem_of_getElem? (part_iff.mp part)) ⟨_, same ▸ binds⟩
   · have hit := part_iff.mp part
     have hitOther := part_iff.mp partOther
     by_cases same : idx = otherIdx
     · subst same
       cases hit.symm.trans hitOther
       exact below _ (List.mem_of_getElem? hit)
        ⟨name, _, _, binds, bindsOther, fun same => differ (same ▸ rfl), fun inside => apart (.within part inside)⟩
     · obtain choice | all := all
       · obtain ⟨pats, tgt, kind⟩ := isChoice_iff.mp choice
         exact apart (.here kind same)
       · have names : Names pat name := ⟨_, binds⟩
         have namesOther : Names other name := ⟨_, bindsOther⟩
         grind [List.pairwise_iff_getElem, Separate]

/-- From the targets noted before, a step goes on to note the names. It finds none repeated exactly if it is clean and
no name has been seen, and then it has seen all of them too. -/
structure Notes (outer : Nodes) (names : String -> Prop) (clean : Prop) (before after : Tgts) : Prop where
 onward : before.repeated <+: after.repeated
 silent_iff : after.repeated = before.repeated ↔ clean ∧ ∀ name, names name -> name ∉ (outer ++ before.seen).map Node.nameVal
 seen : after.repeated = before.repeated ->
  ∀ name, name ∈ after.seen.map Node.nameVal ↔ name ∈ before.seen.map Node.nameVal ∨ names name

namespace Notes
variable {outer : Nodes} {names more : String -> Prop} {clean cleanToo : Prop} {before between after : Tgts}
lemma congr (notes : Notes outer names clean before after) (same : ∀ name, names name ↔ more name)
  (sameClean : clean ↔ cleanToo) : Notes outer more cleanToo before after := by
 cases funext fun name => propext (same name)
 exact propext sameClean ▸ notes

lemma silent_trans {first second third : Nodes} (onward : first <+: second) (onwardToo : second <+: third) :
  third = first ↔ second = first ∧ third = second := by
 refine ⟨?_, fun ⟨same, sameToo⟩ => sameToo.trans same⟩
 rintro rfl
 have same := onward.eq_of_length_le onwardToo.length_le
 exact ⟨same.symm, same⟩

lemma trans (first : Notes outer names clean before between) (second : Notes outer more cleanToo between after) :
  Notes outer (fun name => names name ∨ more name) (clean ∧ cleanToo ∧ ∀ name, names name -> ¬more name) before after := by
 obtain ⟨onward, silent, seen⟩ := first
 obtain ⟨onwardToo, silentToo, seenToo⟩ := second
 refine ⟨onward.trans onwardToo, ?_, ?_⟩
 all_goals rw [silent_trans onward onwardToo]
 · simp only [List.map_append, List.mem_append] at *
   grind
 · grind

lemma add (tgt : Node) : Notes outer (· = tgt.nameVal) True before (before.add outer tgt) := by
 unfold Tgts.add
 split
 · next isSeen =>
   exact ⟨List.prefix_append .., iff_of_false (by simp) fun clean => clean.2 _ rfl (by simpa using isSeen), by simp⟩
 · next isNew => exact ⟨List.prefix_rfl, by simpa using isNew, by simp⟩

lemma fold {names : Node -> String -> Prop} {clean : Node -> Prop} {note : Tgts -> Node -> Tgts} {pats : Nodes}
  (known : ∀ pat ∈ pats, ∀ before, Notes outer (names pat) (clean pat) before (note before pat)) :
  Notes outer (fun name => ∃ pat ∈ pats, names pat name) ((∀ pat ∈ pats, clean pat) ∧ pats.Pairwise (Separate names))
   before (pats.foldl note before) := by
 induction pats generalizing before with
 | nil => exact ⟨List.prefix_rfl, by simp, by simp⟩
 | cons pat pats rest =>
  have all := (known pat (by simp) before).trans (rest fun other isIn => known other (by simp [isIn]))
  refine all.congr (by simp) ?_
  rw [List.forall_mem_cons, List.pairwise_cons]
  grind [Separate]

lemma firsts (tgts : Nodes) :
  Notes outer (· ∈ tgts.map Node.nameVal) True before ((firsts tgts).foldl (.add outer) before) := by
 have names : ∀ name, (∃ tgt ∈ Parser.firsts tgts, name = tgt.nameVal) ↔ name ∈ tgts.map Node.nameVal := by
  intro name
  induction tgts <;> grind [Parser.firsts]
 have separate : (Parser.firsts tgts).Pairwise (Separate fun tgt name => name = tgt.nameVal) := by
  clear names
  induction tgts with
  | nil => exact .nil
  | cons tgt tgts rest => exact List.pairwise_cons.mpr ⟨by grind [Separate], rest.filter _⟩
 exact (fold fun tgt _ _ => add tgt).congr names (by simpa using separate)

lemma merge {names : Node -> String -> Prop} {clean : Node -> Prop} {note : Node -> Tgts} {pats : Nodes}
  (known : ∀ pat ∈ pats, Notes before.seen (names pat) (clean pat) {} (note pat)) :
  Notes outer (fun name => ∃ pat ∈ pats, names pat name) (∀ pat ∈ pats, clean pat) before
   (before.merge outer (pats.map note)) := by
 have quiet : (pats.map note).flatMap (·.repeated) = [] ↔
   ∀ pat ∈ pats, clean pat ∧ ∀ name, names pat name -> name ∉ before.seen.map Node.nameVal := by
  simp only [List.flatMap_eq_nil_iff, List.forall_mem_map]
  refine forall₂_congr fun pat isIn => ?_
  simpa using (known pat isIn).silent_iff
 have found : (pats.map note).flatMap (·.repeated) = [] ->
   ∀ name, name ∈ ((pats.map note).flatMap (·.seen)).map Node.nameVal ↔ ∃ pat ∈ pats, names pat name := by
  simp only [List.flatMap_eq_nil_iff, List.forall_mem_map]
  intro quiet name
  rw [List.map_flatMap, List.flatMap_map, List.mem_flatMap]
  refine exists_congr fun pat => and_congr_right fun isIn => ?_
  simpa using (known pat isIn).seen (quiet pat isIn) name
 unfold Tgts.merge
 generalize (pats.map note).flatMap (·.repeated) = more, (pats.map note).flatMap (·.seen) = tgts at *
 obtain ⟨onward, silent, seen⟩ := @firsts outer {before with repeated := before.repeated ++ more} tgts
 refine ⟨(List.prefix_append ..).trans onward, ?_, ?_⟩
 all_goals rw [silent_trans (List.prefix_append ..) onward, List.append_right_eq_self]
 · rw [silent, quiet]
   simp only [List.map_append, List.mem_append]
   grind
 · rintro ⟨isQuiet, same⟩ name
   rw [seen same, found isQuiet]

end Notes

lemma noteTgts_notes (outer : Nodes) (before : Tgts) (node : Node) :
  Notes outer (Names node) (¬BindsTwice node) before (noteTgts outer before node) := by
 have known := fun outer before pat (_ : pat ∈ subpats node) => noteTgts_notes outer before pat
 have own : Notes outer (fun name => ∃ tgt ∈ (ownTgt? node).toList, name = tgt.nameVal) True before
   ((ownTgt? node).toList.foldl (.add outer) before) :=
  (Notes.fold fun tgt _ _ => .add tgt).congr (fun _ => .rfl) (by cases ownTgt? node <;> simp)
 rw [noteTgts]
 split
 · next isChoice =>
   rw [List.map_attach_eq_pmap, List.pmap_eq_map]
   refine (own.trans (.merge fun pat isBelow => known _ {} pat isBelow)).congr (fun name => names_iff.symm) ?_
   rw [not_bindsTwice_iff]
   grind
 · next all =>
   rw [List.foldl_attach (f := fun tgts pat => noteTgts outer tgts pat)]
   refine (own.trans (.fold fun pat isBelow between => known outer between pat isBelow)).congr (fun name => names_iff.symm) ?_
   rw [not_bindsTwice_iff]
   grind
termination_by sizeOf node
decreasing_by exact sizeOf_subpat ‹_›

end TypeChecker.Parser
