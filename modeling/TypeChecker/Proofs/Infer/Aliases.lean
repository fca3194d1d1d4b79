import Mathlib
import TypeChecker.Infer.Expression

/-! Import aliases may lead in circles of any length. A step goes on to a declaration that was not visited before or
is the last, and what it loads is a file not read before. So every declaration is resolved, in at most one step more
than the modules have declarations. -/

open Std.Do
set_option mvcgen.warning false

namespace TypeChecker.Infer

/-- How many steps aliases are followed and what they lead to, with no bound on the steps. -/
inductive Chain (step : DeclId -> StateT AliasPath Eval (AliasStep DeclId)) :
  Nat -> List DeclId -> DeclId -> AliasPath -> World -> (AliasEnd DeclId × AliasPath) × World -> Prop where
 | stays (run : step cur path world = ((.stays, past), after)) :
    Chain step 1 visited cur path world ((.decl cur, past), after)
 /-- A fallback names no symbol, so that the aliases end with it. -/
 | fallsBack (run : step cur path world = ((.fallsBack, past), after)) :
    Chain step 1 visited cur path world ((.fallback cur, past), after)
 | missing (run : step cur path world = ((.missing, past), after)) :
    Chain step 1 visited cur path world ((.missing, past), after)
 | cycle (run : step cur path world = ((.leads tgts, past), after)) (seen : ∀ tgt ∈ tgts, tgt ∈ visited)
    (last : tgts.getLast? = some tgt) : Chain step 1 visited cur path world ((.cycle tgt, past), after)
 | leads (run : step cur path world = ((.leads tgts, past), after))
    (last : (tgts.filter (!visited.contains ·)).getLast? = some next)
    (rest : Chain step n (next :: visited) next past after ended) : Chain step (n + 1) visited cur path world ended

/-! ## Loading -/

/-- The files that are not loaded. -/
def unread (world : World) : Finset String :=
 (world.project.texts.keys ++ world.project.places.tree.files.keys).toFinset.filter (· ∉ world.blockOfPath)

lemma card_unread (world : World) : (unread world).card <= world.project.fileCount :=
 (Finset.card_filter_le ..).trans <| (List.toFinset_card_le _).trans (by simp [Project.fileCount])

lemma mem_unread {world : World} {path text : String} (hit : world.project.text? path = some text)
  (fresh : path ∉ world.blockOfPath) : path ∈ unread world := by
 simp only [Project.text?, Option.or_eq_some_iff] at hit
 simp only [unread, Finset.mem_filter, List.mem_toFinset, List.mem_append, Std.HashMap.mem_keys]
 grind

lemma unread_insert {world after : World} {path : String} {block : Nat} (project : after.project = world.project)
  (read : after.blockOfPath = world.blockOfPath.insert path block) : unread after ⊆ (unread world).erase path := by
 intro other mem
 simp only [unread, project, read, Finset.mem_erase, Finset.mem_filter, Std.HashMap.mem_insert, beq_iff_eq] at mem ⊢
 grind

section
variable [Evals]
def loaded (path : String) (world : World) : World := ((Evals.loadMod path).run world).2

/-- Loading a module leaves the world as it is or reads the file. -/
def Reads : Prop := ∀ path world, loaded path world = world ∨
 path ∈ unread world ∧ unread (loaded path world) ⊂ unread world

/-- What the world can become as modules are loaded. -/
def Loads : World -> World -> Prop := Relation.ReflTransGen fun world after => ∃ path, after = loaded path world

/-- The declarations of the modules that can be loaded. -/
def declarable (world : World) : Set DeclId := {id | ∃ after, Loads world after ∧ id ∈ after.scopes.declared}

/-- The declarations yet to visit. -/
def unvisited (visited : List DeclId) (world : World) : Set DeclId := {id ∈ declarable world | id ∉ visited}

variable {world after : World}
namespace Reads

lemma sub (reads : Reads) (path : String) (world : World) : unread (loaded path world) ⊆ unread world :=
 (reads path world).elim (fun same => by rw [same]) (·.2.subset)

lemma bindMod (reads : Reads) (files : Finset String) {path text : String} {block : Nat} {action : Eval Bool}
  (binds : bindMod path text block = action) :
  ⦃fun world => ⌜unread world ⊆ files⌝⦄ action ⦃⇓ _ world => ⌜unread world ⊆ files⌝⦄ := by
 have load (path : String) :
   ⦃fun world => ⌜unread world ⊆ files⌝⦄ Evals.loadMod path ⦃⇓ _ world => ⌜unread world ⊆ files⌝⦄ :=
  fun world => (reads.sub path world).trans
 rw [<- binds, Infer.bindMod]
 -- Neither parsing nor binding needs to be unfolded.
 generalize @parseSrc? = parse
 generalize @bindSrc = bind
 mvcgen [load] invariants
 · ⇓⟨_, _⟩ world => ⌜unread world ⊆ files⌝

lemma above (reads : Reads) : @Reads above := by
 intro path world
 change ((loadMod path).run world).2 = world ∨ _ ∧ unread ((loadMod path).run world).2 ⊂ _
 simp only [loadMod, StateT.run_bind, StateT.run_get, pure_bind]
 split
 · exact .inl rfl
 split
 · exact .inl rfl
 split
 · next text hit =>
   have mem : path ∈ unread world := mem_unread hit (by grind)
   refine .inr ⟨mem, Finset.ssubset_of_subset_of_ssubset ?_ (Finset.erase_ssubset mem)⟩
   generalize binds : Infer.bindMod path text _ = action
   exact reads.bindMod _ binds _ (unread_insert rfl rfl)
 · exact .inl rfl

omit [Evals] in
lemma ofDepth (depth : Nat) : @Reads (.ofDepth depth) := by
 induction depth with
 | zero => exact fun _ _ => .inl rfl
 | succ depth ih => exact @above (.ofDepth depth) ih

variable (reads : Reads)
include reads
lemma loads_sub (loads : Loads world after) : unread after ⊆ unread world := by
 induction loads with
 | refl => exact subset_rfl
 | tail _ last ih =>
  obtain ⟨path, rfl⟩ := last
  exact (reads.sub path _).trans ih

lemma loads_cases (loads : Loads world after) : after = world ∨
  ∃ path ∈ unread world, unread (loaded path world) ⊂ unread world ∧ Loads (loaded path world) after := by
 induction loads with
 | refl => exact .inl rfl
 | tail _ last ih =>
  obtain rfl | ⟨path, mem, less, rest⟩ := ih
  · obtain ⟨path, rfl⟩ := last
    exact (reads path _).imp_right fun ⟨mem, less⟩ => ⟨path, mem, less, .refl⟩
  · exact .inr ⟨path, mem, less, rest.tail last⟩

lemma finite (world : World) : (declarable world).Finite := by
 induction h : unread world using Finset.strongInduction generalizing world with
 | H files ih =>
  subst h
  let next := {path | path ∈ unread world ∧ unread (loaded path world) ⊂ unread world}
  have later : (⋃ path ∈ next, declarable (loaded path world)).Finite :=
   ((unread world).finite_toSet.subset fun _ mem => mem.1).biUnion fun path mem => ih _ mem.2 _ rfl
  refine (world.scopes.declared.toFinset.finite_toSet.union later).subset ?_
  rintro id ⟨after, loads, mem⟩
  obtain rfl | ⟨path, unknown, less, rest⟩ := reads.loads_cases loads
  · exact .inl (by simpa using mem)
  · exact .inr (Set.mem_biUnion (x := path) ⟨unknown, less⟩ ⟨after, rest, mem⟩)

lemma unvisited_lt {visited : List DeclId} {next : DeclId} (loads : Loads world after)
  (known : next ∈ after.scopes.declared) (fresh : next ∉ visited) :
  (unvisited (next :: visited) after).ncard < (unvisited visited world).ncard := by
 refine Set.ncard_lt_ncard ⟨fun id ⟨⟨final, rest, mem⟩, other⟩ => ?_, fun sub => ?_⟩
  ((reads.finite world).subset fun _ mem => mem.1)
 · exact ⟨⟨final, loads.trans rest, mem⟩, fun seen => other (.tail _ seen)⟩
 · exact (sub ⟨⟨after, loads, known⟩, fresh⟩).2 (.head _)

end Reads

/-! ## Steps -/

omit [Evals] in
lemma aliasTgts_sub (scopes : ScopeWorld) (sym : SymId) : aliasTgts scopes sym ⊆ scopes.declared := by
 intro id mem
 have mem : id ∈ (scopes.sym sym).decls.toList := by grind [aliasTgts]
 have noSyms : (default : ScopeTables).syms = #[] := rfl
 have noDecls : (default : Sym).decls = #[] := rfl
 simp only [ScopeWorld.sym, ScopeWorld.tablesOf, Array.getD_eq_getD_getElem?] at mem
 simp only [ScopeWorld.declared, List.mem_flatMap]
 grind

@[spec] lemma loadMod_loads (path : String) (start : World) :
  ⦃fun world => ⌜Loads start world⌝⦄ Evals.loadMod path ⦃⇓ _ world => ⌜Loads start world⌝⦄ :=
 fun _ loads => loads.tail ⟨path, rfl⟩

lemma aliasStep_loads (localNames allowHidden : Bool) (id : DeclId) (start : World) :
  ⦃fun _ world => ⌜Loads start world⌝⦄ aliasStep localNames allowHidden id
  ⦃⇓ res _ world => ⌜Loads start world ∧ ∀ tgts, res = .leads tgts -> tgts ≠ [] ∧ tgts ⊆ world.scopes.declared⌝⦄ := by
 have trans {world mid after : World} : Loads world mid -> Loads mid after -> Loads world after := .trans
 have refl {world : World} : Loads world world := .refl
 mvcgen [aliasStep, aliasSym?, stepWithoutSym, modSym?, declAt]
 all_goals grind [aliasTgts_sub]

/-- There are more rounds than unread files, or as many and more steps than declarations not visited. -/
def Ready (rounds left : Nat) (visited : List DeclId) (world : World) : Prop :=
 (unread world).card < rounds ∨
  (unread world).card <= rounds ∧ (world.scopes.declared.toFinset \ visited.toFinset).card < left

namespace Ready
variable {rounds left : Nat} {visited : List DeclId} {next : DeclId}
omit [Evals] in
lemma refill (ready : Ready (rounds + 1) 0 visited world) :
  Ready rounds (world.scopes.declared.length + 1) visited world := by
 obtain more | ⟨-, none⟩ := ready
 · refine .inr ⟨Nat.lt_succ_iff.mp more, Nat.lt_succ_iff.mpr ?_⟩
   exact (Finset.card_le_card Finset.sdiff_subset).trans (List.toFinset_card_le _)
 · exact absurd none (Nat.not_lt_zero _)

lemma step (ready : Ready rounds (left + 1) visited world) (reads : Reads) (loads : Loads world after)
  (known : next ∈ after.scopes.declared) (fresh : next ∉ visited) : Ready rounds left (next :: visited) after := by
 obtain rfl | ⟨path, -, less, rest⟩ := reads.loads_cases loads
 · refine ready.imp_right fun ⟨more, enough⟩ => ⟨more, ?_⟩
   have mem : next ∈ after.scopes.declared.toFinset \ visited.toFinset := by simp [known, fresh]
   rw [List.toFinset_cons, Finset.sdiff_insert]
   exact (Finset.card_erase_lt_of_mem mem).trans_le (Nat.lt_succ_iff.mp enough)
 · -- A file was read, so that the rounds are more than are needed now.
   have fewer := Finset.card_lt_card ((reads.loads_sub rest).trans_ssubset less)
   exact .inl (ready.elim fewer.trans fun ⟨more, _⟩ => fewer.trans_le more)

end Ready

lemma followAlias_chain (reads : Reads) (freed : DeclId -> Bool) (allowHidden : Bool) (rounds left : Nat)
  (visited : List DeclId) (cur : DeclId) (path : AliasPath) (world : World)
  (ready : Ready rounds left visited world) :
  let step cur := aliasStep (freed cur) allowHidden cur
  ∃ n stop past after, n <= (unvisited visited world).ncard + 1 ∧
   Chain step n visited cur path world ((stop, past), after) ∧
   followAlias step (return (<- getThe World).scopes.declared.length) rounds left visited cur path world =
    ((some stop, past), after) := by
 intro step
 induction rounds, left, visited, cur using followAlias.induct generalizing path world with
 | case1 => exact absurd ready (by simp [Ready])
 | case2 rounds visited cur ih =>
  rw [followAlias]
  exact ih _ path world ready.refill
 | case3 rounds left visited cur ih =>
  obtain ⟨loads, goesOn⟩ : Loads world (step cur path world).2 ∧ ∀ tgts, (step cur path world).1.1 = .leads tgts ->
    tgts ≠ [] ∧ tgts ⊆ (step cur path world).2.scopes.declared :=
   aliasStep_loads (freed cur) allowHidden cur world path world .refl
  rcases run : step cur path world with ⟨⟨res, past⟩, after⟩
  rw [run] at loads goesOn
  have bind {α : Type} (rest : _ -> StateT AliasPath Eval α) : (step cur >>= rest) path world = rest res past after :=
   congrArg (fun ended : (_ × AliasPath) × World => rest ended.1.1 ended.1.2 ended.2) run
  rw [followAlias, bind]
  have one : 1 <= (unvisited visited world).ncard + 1 := Nat.le_add_left ..
  cases res with
  | stays => exact ⟨1, _, _, _, one, .stays run, rfl⟩
  | fallsBack => exact ⟨1, _, _, _, one, .fallsBack run, rfl⟩
  | missing => exact ⟨1, _, _, _, one, .missing run, rfl⟩
  | leads tgts =>
   obtain ⟨nonempty, known⟩ := goesOn tgts rfl
   dsimp only
   cases last : (tgts.filter (!visited.contains ·)).getLast? with
   | none =>
    have hit := List.getLast?_eq_some_getLast nonempty
    exact ⟨1, _, _, _, one, .cycle run (by simpa using last) hit, by rw [hit]; rfl⟩
   | some next =>
    obtain ⟨mem, fresh⟩ : next ∈ tgts ∧ next ∉ visited := by simpa using List.mem_of_getLast? last
    obtain ⟨n, stop, final, ended, few, chain, done⟩ := ih next past after (ready.step reads loads (known mem) fresh)
    have fewer := few.trans (reads.unvisited_lt loads (known mem) fresh)
    exact ⟨n + 1, stop, final, ended, Nat.succ_le_succ fewer, .leads run last chain, done⟩

end

/-- However aliases lead in circles, a declaration is resolved to where they end, after at most one step more than the
modules that can be loaded have declarations. -/
theorem resolveAlias_ends (depth : Nat) (world : World) (id : DeclId) (localNames allowHidden freesFirst : Bool) :
  let _ : Evals := .ofDepth depth
  let step cur := aliasStep (localNames || freesFirst && cur == id) allowHidden cur
  (declarable world).Finite ∧ ∃ n stop path after, n <= (declarable world).ncard + 1 ∧
   Chain step n [] id {} world ((stop, path), after) ∧
   (resolveAlias id localNames allowHidden freesFirst).run world = (resolution id path stop).run after := by
 intro _ step
 have reads : Reads := .ofDepth depth
 obtain ⟨n, stop, path, after, few, chain, done⟩ := followAlias_chain reads
  (fun cur => localNames || freesFirst && cur == id) allowHidden (world.project.fileCount + 1) 1000 [] id {} world
  (.inl (Nat.lt_succ_iff.mpr (card_unread world)))
 refine ⟨reads.finite world, n, stop, path, after, by simpa [unvisited] using few, chain, ?_⟩
 simp only [resolveAlias, StateT.run_bind, StateT.run_get, pure_bind]
 rw [show StateT.run (StateT.run _ _) _ = _ from done]
 rfl

end TypeChecker.Infer
