import TypeChecker.Diagnostic

/-! What a sink keeps: of the diagnostics with one place and one hash of the message, the first. -/

namespace TypeChecker.DiagSink

/-- A sink knows the keys of what it holds. -/
def Knows (sink : DiagSink) : Prop := ∀ key, sink.keys.contains key = sink.diags.any (·.key == key)

theorem Knows.add {sink : DiagSink} (knows : sink.Knows) (diag : Diag) : (sink.add diag).Knows := by
 rw [DiagSink.add]
 split
 · exact knows
 · intro key
   rw [Std.HashSet.contains_insert, Array.any_push, knows key, Bool.or_comm]

theorem toList_foldl_add (diags : List Diag) {sink : DiagSink} (knows : sink.Knows) :
  (diags.foldl add sink).diags.toList =
   List.eraseDupsBy.loop (fun left right => left.key == right.key) diags sink.diags.toList.reverse := by
 induction diags generalizing sink with
 | nil => simp [List.eraseDupsBy.loop]
 | cons diag diags induction =>
  rw [List.foldl_cons, induction (knows.add diag), List.eraseDupsBy.loop, DiagSink.add, knows diag.key]
  have seen : sink.diags.any (·.key == diag.key) = sink.diags.toList.reverse.any (diag.key == ·.key) := by
   simp [Bool.beq_comm]
  rw [seen]
  split
  · next met => simp [met]
  · next new => simp [new]

/-- Whatever is added, a sink holds the first diagnostic of each place and hash of the message, in the order of adding. -/
theorem toList_adds (diags : List Diag) :
  (diags.foldl add {}).diags.toList = diags.eraseDupsBy fun left right => left.key == right.key :=
 toList_foldl_add diags fun key => by simp

end TypeChecker.DiagSink
