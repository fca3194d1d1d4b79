import Mathlib.Data.List.Chain
import TypeChecker.Edit.ImportList
import TypeChecker.Proofs.Text.Positions

/-! Sorting imports: the edits stand in their order, apart from each other, exactly if no statement that imports
several modules follows other code. -/

namespace TypeChecker
namespace ImportStmts
variable {importOf : Node -> Option ImportRes} {withImplicit : Bool} {precedes : Node -> Node -> Prop}
/-- The imports that are collected are of statements in the order of the statements, with some of them repeated. -/
lemma collect_pairwise {nodes : Nodes} (refl : ∀ node ∈ nodes, precedes node node) (hasImport afterOther : Bool)
  (hit : ImportStmts) (sorted : (hit.ordered.map (·.node) ++ nodes).Pairwise precedes) :
  ((collect importOf withImplicit nodes hasImport afterOther hit).ordered.map (·.node)).Pairwise precedes := by
 induction nodes generalizing hasImport afterOther hit with
 | nil => simpa [collect] using sorted
 | cons node rest ih =>
  have later (hit : ImportStmts) (sorted : (hit.ordered.map (·.node) ++ node :: rest).Pairwise precedes) :
    (hit.ordered.map (·.node) ++ rest).Pairwise precedes := sorted.sublist (by simp)
  rw [collect]
  split
  next parts kind =>
   clear kind
   refine ih (by grind) _ _ _ (later _ ?_)
   induction parts generalizing hit with
   | nil => exact sorted
   | cons part parts each =>
    refine each _ ?_
    unfold addPart
    split
    · grind
    · exact sorted
  · exact ih (by grind) _ _ _ (by simpa [addFrom] using sorted)
  · exact ih (by grind) _ _ _ (later hit sorted)

end ImportStmts
namespace ImportSort
variable {lines : LineTable} {stmts : List ImportStmt} (stmt : ImportStmt)
lemma runs_cons (rest : List ImportStmt) : ∃ run others,
  runs (stmt :: rest) = (stmt :: run) :: others ∧ ∀ other ∈ others, ∃ first ∈ rest, ∃ run, other = first :: run := by
 induction rest generalizing stmt with
 | nil => exact ⟨[], [], rfl, by simp⟩
 | cons next rest ih =>
  obtain ⟨run, others, eq, heads⟩ := ih next
  rw [runs, eq]
  by_cases follows : next.followsOther
  · exact ⟨[], (next :: run) :: others, by simp [follows], by grind⟩
  · exact ⟨next :: run, others, by simp [follows], by grind⟩

lemma runRange_cons (run : List ImportStmt) : runRange lines (stmt :: run) =
  ⟨lines.posOf stmt.node.start, lines.posOf (run.getLast?.getD stmt).node.stop⟩ := by
 simp [runRange, List.getLast?_cons]

/-- How two statements stand, of which the first may be the second as well. -/
def InOrder (lines : LineTable) (lhs rhs : Node) : Prop :=
 (lines.posOf lhs.start).isAtOrBefore (lines.posOf rhs.start) ∧
  ((lines.posOf lhs.stop).isAtOrBefore (lines.posOf rhs.start) ↔ lhs ≠ rhs)

/-- Runs stand apart exactly if none starts with a part of the statement before. -/
lemma runs_apart_iff (sorted : stmts.Pairwise fun lhs rhs => InOrder lines lhs.node rhs.node) :
  (runs stmts).Pairwise (fun left right => (runRange lines left).stop.isAtOrBefore (runRange lines right).start) ↔
   stmts.IsChain fun prev stmt => stmt.followsOther -> prev.node ≠ stmt.node := by
 induction stmts with
 | nil => simp [runs]
 | cons stmt rest ih =>
  cases rest with
  | nil => simp [runs]
  | cons next rest =>
   obtain ⟨run, others, eq, heads⟩ := runs_cons next rest
   have here := (List.pairwise_cons.1 sorted).1 next (by simp)
   specialize ih sorted.tail
   rw [List.isChain_cons_cons, <- ih, <- here.2, runs, eq]
   by_cases follows : next.followsOther
   · -- The statement is a run of its own, and the later runs start behind the next one.
     have later (other : List ImportStmt) (mem : other ∈ others) :
       (lines.posOf next.node.start).isAtOrBefore (runRange lines other).start := by
      obtain ⟨first, within, run, rfl⟩ := heads other mem
      rw [runRange_cons]
      exact ((List.pairwise_cons.1 sorted.tail).1 first within).1
     simp only [List.head?_cons, Option.any_some, follows, if_true, List.pairwise_cons, List.mem_cons, runRange_cons,
      List.getLast?_nil, Option.getD_none, forall_eq_or_imp, forall_const, and_congr_left_iff,
      and_iff_left_iff_imp, and_imp]
     grind [Pos.isAtOrBefore_trans]
   · simp [follows, runRange_cons, List.getLast?_cons]

/-- The edits of a source whose statements stand in order come in order and apart from each other exactly if
each import that follows other code is of another statement than the import before it. -/
theorem edits_apart_iff (src : ParsedSrc) (importOf : Node -> Option ImportRes) (withImplicit : Bool)
  (inOrder : (ImportStmts.simple src.tree).Pairwise fun lhs rhs =>
   (src.lines.posOf lhs.stop).isAtOrBefore (src.lines.posOf rhs.start))
  (solid : ∀ node ∈ ImportStmts.simple src.tree, (src.lines.posOf node.start).isBefore (src.lines.posOf node.stop)) :
  (edits src (ImportStmts.ofMod src.tree importOf withImplicit).ordered).Pairwise
    (·.range.stop.isAtOrBefore ·.range.start) ↔
   (ImportStmts.ofMod src.tree importOf withImplicit).ordered.IsChain fun prev stmt =>
    stmt.followsOther -> prev.node ≠ stmt.node := by
 have pairs :
   ((ImportStmts.ofMod src.tree importOf withImplicit).ordered.map (·.node)).Pairwise (InOrder src.lines) := by
  simp only [Pos.isBefore_iff] at solid
  refine ImportStmts.collect_pairwise (fun node mem => ?_) _ _ {} (inOrder.imp_of_mem fun left right ends => ?_)
  · grind [InOrder, Pos.isAtOrBefore_iff]
  · grind [InOrder, Pos.isAtOrBefore_iff]
 generalize (ImportStmts.ofMod src.tree importOf withImplicit).ordered = stmts at pairs
 have ranges : (edits src stmts).map (·.range) = (runs stmts).map (runRange src.lines) := by
  unfold edits
  split <;> simp_all
 rw [← runs_apart_iff (List.pairwise_map.1 pairs)]
 refine (List.pairwise_map (f := TextEdit.range) (R := fun left right => left.stop.isAtOrBefore right.start)).symm.trans ?_
 rw [ranges, List.pairwise_map]

def nodeAt (start len : Nat) (kind : NodeKind Node) : Node := ⟨start, ⟨start, len⟩, kind⟩

variable (names : List Nat)
/-- An import, other code, and an import of modules with names at offsets, all in one line. -/
def sampleSrc : ParsedSrc where
 text := #[]
 tokenized := ⟨#[], #[⟨0, 40⟩], #[], none, #[], "", false, "", ""⟩
 tree :=
  let name (start : Nat) := nodeAt start 1 (.importAs default none)
  nodeAt 0 40 (.modNode [nodeAt 0 8 (.importStmt [name 7]), nodeAt 10 4 .passStmt,
   nodeAt 16 20 (.importStmt (names.map name))])
 facts := {}
 diags := #[]
 nextId := 0

abbrev sampleEdits : List TextEdit :=
 edits (sampleSrc names) (ImportStmts.ofMod (sampleSrc names).tree (fun _ => none) false).ordered

theorem edits_apart_one : (sampleEdits [23]).Pairwise (·.range.stop.isAtOrBefore ·.range.start) :=
 (edits_apart_iff (sampleSrc [23]) (fun _ => none) false (by decide) (by decide)).2
  (.cons_cons (fun _ same => absurd (congrArg Node.id same) (by decide)) (.singleton _))

theorem edits_overlap_two : ¬(sampleEdits [23, 26]).Pairwise (·.range.stop.isAtOrBefore ·.range.start) := by decide

end ImportSort
end TypeChecker
