import TypeChecker.Proofs.Path.Resolve

/-! Matching paths. The pattern made of a specification matches a path exactly if the first names of the path match the
components, one after the other. -/

namespace TypeChecker.PathPat
open TypeChecker.Path
variable {comps names rest : Strings} {unit : UInt16} {name pat : List UInt16} {word : String}
def units (text : String) : List UInt16 := (Text.ofString text).toList

/-- Whether a name matches a component: `*` stands for any run of units and `?` for one. -/
def NameMatch : List UInt16 -> List UInt16 -> Prop
 | [], name => name = []
 | unit :: pat, name =>
  if unit = 0x2A then ∃ rest, rest <:+ name ∧ NameMatch pat rest
  else ∃ first rest, name = first :: rest ∧ (unit = 0x3F ∨ unit = first) ∧ NameMatch pat rest

/-- Whether names match components: `**` stands for any number of names. -/
def Glob : Strings -> Strings -> Prop
 | [], names => names = []
 | comp :: comps, names =>
  if comp = "**" then ∃ rest, rest <:+ names ∧ Glob comps rest
  else ∃ name rest, names = name :: rest ∧ NameMatch (units comp) (units name) ∧ Glob comps rest

def unitsOf (names : Strings) : List UInt16 := names.flatMap fun name => slash :: units name

lemma slash_not_mem_units (solid : IsSolid word) : slash ∉ units word := by
 rw [units, Text.toList_ofString, List.mem_flatMap]
 rintro ⟨letter, mem, inside⟩
 have other : letter.toNat ≠ 0x2F := fun eq => (solid letter mem).1 (Char.toNat_inj.1 eq)
 have valid : letter.toNat < 0xD800 ∨ 0xDFFF < letter.toNat ∧ letter.toNat < 0x110000 := letter.valid
 rw [Text.ofCodePoint] at inside
 split at inside <;> simp [slash, <- UInt16.toNat_inj] at inside <;> omega

lemma units_ne_nil (filled : word ≠ "") : units word ≠ [] := by
 obtain ⟨letter, letters, eq⟩ := List.exists_cons_of_ne_nil (show word.toList ≠ [] by simpa using filled)
 rw [units, Text.toList_ofString, eq]
 grind [Text.ofCodePoint]

/-! ## A name -/

lemma matchesUnits_cons {text : List UInt16} (hit : matchesUnits (piecesOf false comps) (unit :: text)) : unit = slash := by
 induction comps generalizing text with
 | nil => simpa [piecesOf, matchesUnits] using hit
 | cons comp comps ih =>
  rw [piecesOf] at hit
  split at hit
  · cases text with
    | nil => exact ih (by simpa [matchesUnits] using hit)
    | cons second text =>
     simp only [matchesUnits, Bool.or_eq_true, Bool.and_eq_true, beq_iff_eq] at hit
     exact hit.elim ih (·.1.1)
  · simp_all [matchesUnits]

/-- The pieces of a component match a name, and the other components what is behind it. -/
lemma matchesUnits_name (solid : slash ∉ name) (plain : slash ∉ pat) (names : Strings) :
  matchesUnits (pat.map pieceOf ++ piecesOf false comps) (name ++ unitsOf names) ↔
   NameMatch pat name ∧ matchesUnits (piecesOf false comps) (unitsOf names) := by
 induction pat generalizing name with
 | nil =>
  cases name with
  | nil => simp [NameMatch]
  | cons first name =>
   simp only [List.map_nil, List.nil_append, NameMatch, reduceCtorEq, false_and, iff_false]
   exact fun hit => solid (by simp [matchesUnits_cons hit])
 | cons unit pat ih =>
  rw [List.mem_cons, not_or] at plain
  by_cases star : unit = 0x2A
  · have piece : pieceOf unit = .anyRun := by simp [pieceOf, star]
    rw [List.map_cons, List.cons_append, piece, NameMatch, if_pos star]
    -- The run takes the units of the name one by one, and stops at the slash at the latest.
    induction name with
    | nil =>
     have none : matchesUnits (.anyRun :: (pat.map pieceOf ++ piecesOf false comps)) (unitsOf names) =
       matchesUnits (pat.map pieceOf ++ piecesOf false comps) (unitsOf names) := by
      cases names <;> simp [matchesUnits, unitsOf]
     simpa [none] using ih solid plain.2
    | cons first name further =>
     rw [List.mem_cons, not_or] at solid
     have whole := @ih (first :: name) (by grind) plain.2
     rw [List.cons_append] at whole ⊢
     rw [matchesUnits, Bool.or_eq_true, whole, Bool.and_eq_true]
     grind [List.suffix_cons_iff]
  · cases name with
    | nil => cases names <;> simp [NameMatch, star, pieceOf, unitsOf] <;> split <;> simp_all [matchesUnits, Ne.symm]
    | cons first name =>
     rw [List.mem_cons, not_or] at solid
     have := ih solid.2 plain.2
     by_cases any : unit = 0x3F <;> simp_all [NameMatch, pieceOf, matchesUnits] <;> grind

/-! ## A path -/

/-- What stands behind the slashes of a path: names, or nothing behind the one of the root. -/
def Slots (names : Strings) : Prop := names = [""] ∨ ∀ name ∈ names, IsName name

lemma Slots.solid (slots : Slots names) (mem : word ∈ names) : IsSolid word := by
 rcases slots with rfl | proper
 · simp_all [IsSolid]
 · exact (proper word mem).solid

lemma Slots.suffix (slots : Slots names) (ends : rest <:+ names) : Slots rest := by
 rcases slots with rfl | proper
 · grind [Slots, List.suffix_cons_iff]
 · exact .inr fun name mem => proper name (ends.subset mem)

lemma matchesUnits_slash {pieces : List PatPiece} (hit : matchesUnits pieces []) : matchesUnits pieces [slash] := by
 induction pieces with
 | nil => simp [matchesUnits]
 | cons piece pieces ih => cases piece <;> simp_all [matchesUnits]

lemma matchesUnits_skip (slots : Slots names) : matchesUnits (.anyComps :: piecesOf false comps) (unitsOf names) ↔
  ∃ rest, rest <:+ names ∧ matchesUnits (piecesOf false comps) (unitsOf rest) := by
 induction names with
 | nil => simp [unitsOf, matchesUnits]
 | cons word names ih =>
  have here : unitsOf (word :: names) = slash :: (units word ++ unitsOf names) := by simp [unitsOf]
  simp only [List.suffix_cons_iff, or_and_right, exists_or, exists_eq_left, <- ih (slots.suffix (List.suffix_cons ..))]
  rw [here]
  by_cases root : word = ""
  · obtain rfl : names = [] := by
     rcases slots with eq | proper
     · simpa using (List.cons.inj eq).2
     · exact absurd root (proper word (by simp)).filled
    simpa [root, unitsOf, units, Text.ofString, matchesUnits] using matchesUnits_slash
  · obtain ⟨first, rest, eq⟩ := List.exists_cons_of_ne_nil (units_ne_nil root)
    have solid := slash_not_mem_units (slots.solid (by simp : word ∈ word :: names))
    rw [eq, List.mem_cons, not_or] at solid
    have passes := @matchesUnits_name ("**" :: comps) rest [0x2A] solid.2 (by decide) names
    rw [eq, List.cons_append, matchesUnits, Bool.or_eq_true, Bool.and_eq_true]
    simp_all [NameMatch, piecesOf, pieceOf, Ne.symm]

lemma matchesUnits_iff (plain : ∀ comp ∈ comps, IsSolid comp) (slots : Slots names) :
  matchesUnits (piecesOf false comps) (unitsOf names) ↔ ∃ front, front <+: names ∧ Glob comps front := by
 induction comps generalizing names with
 | nil => cases names <;> simp [piecesOf, unitsOf, matchesUnits, Glob]
 | cons comp comps ih =>
  have plain' : ∀ comp ∈ comps, IsSolid comp := fun comp mem => plain comp (by simp [mem])
  by_cases skip : comp = "**"
  · calc
     _ ↔ ∃ rest, rest <:+ names ∧ matchesUnits (piecesOf false comps) (unitsOf rest) := by
      simpa [piecesOf, skip] using matchesUnits_skip slots
     _ ↔ ∃ rest, rest <:+ names ∧ ∃ front, front <+: rest ∧ Glob comps front :=
      exists_congr fun rest => and_congr_right fun ends => ih plain' (slots.suffix ends)
     _ ↔ ∃ part, part <:+: names ∧ Glob comps part := by grind [List.infix_iff_prefix_suffix]
     _ ↔ _ := by simp only [Glob, skip, if_true, List.infix_iff_suffix_prefix]; grind
  · cases names with
    | nil => simp [piecesOf, skip, unitsOf, matchesUnits, Glob]
    | cons name names =>
     have here := @matchesUnits_name comps _ _ (slash_not_mem_units (slots.solid (by simp : name ∈ name :: names)))
      (slash_not_mem_units (plain comp (by simp))) names
     have : piecesOf false (comp :: comps) = .unit slash :: ((units comp).map pieceOf ++ piecesOf false comps) := by
      simp [piecesOf, skip, units]
     rw [this, unitsOf, List.flatMap_cons, List.cons_append, matchesUnits, <- unitsOf, beq_self_eq_true, Bool.true_and,
      here, ih plain' (slots.suffix (List.suffix_cons ..))]
     simp only [Glob, skip, if_false]
     constructor
     · rintro ⟨hit, front, starts, more⟩
       exact ⟨name :: front, List.cons_prefix_cons.2 ⟨rfl, starts⟩, name, front, rfl, hit, more⟩
     · rintro ⟨_, starts, first, front, rfl, hit, more⟩
       obtain ⟨rfl, within⟩ := List.cons_prefix_cons.1 starts
       exact ⟨hit, front, within, more⟩

/-- The names of the path, the root being one without a name. -/
def slotsOf (route : Route) : Strings := if route.names = [] then [""] else route.names

lemma units_format (route : Route) : units route.format = unitsOf (slotsOf route) := by
 unfold slotsOf
 split
 next root =>
  rw [Route.format, root]
  decide
 next deep =>
  rw [units, Text.toList_ofString, route.toList_format deep, List.flatMap_assoc]
  simp [unitsOf, units, Text.toList_ofString]
  rfl

lemma isMatch_eq (base spec path : Route) (relative : isRooted ("/".intercalate spec.names) = false) :
  (FileSpec.create base.uri ("/".intercalate spec.names)).isMatch path.uri =
   matchesUnits (piecesOf false (base.names ++ spec.names)) (unitsOf (slotsOf path)) := by
 let target : Route := ⟨base.names ++ spec.names, List.forall_mem_append.2 ⟨base.proper, spec.proper⟩⟩
 have plain : '\\' ∉ ("/".intercalate spec.names).toList := by
  have := spec.backslash_not_mem
  rw [Route.format, String.toList_append, List.mem_append, not_or] at this
  exact this.2
 have leads := base.leads_format.join relative
 rw [resolveDots_join spec.proper, List.reverse_reverse] at leads
 have comps : (base.uri.resolve ["/".intercalate spec.names]).comps = "/" :: (base.names ++ spec.names) := by
  rw [@Route.resolve_uri ["/".intercalate spec.names] base target (by simpa using plain) leads, Route.comps_uri]
 have strip : stripTrailSep "/" = "" := by simp [stripTrailSep, hasTrailSep_iff]
 have pieces : PathPat.ofComps ("/" :: (base.names ++ spec.names)) = piecesOf false (base.names ++ spec.names) := by
  simp [PathPat.ofComps, strip, piecesOf, Text.ofString]
 have path_eq : path.uri.path = path.format := withSlashes_of_not_mem path.backslash_not_mem
 rw [<- units_format, <- pieces, <- comps, <- path_eq]
 rfl

/-- A pattern below a directory matches a path exactly if some of its first names match the components of both. -/
theorem isMatch_iff (base spec path : Route) (relative : isRooted ("/".intercalate spec.names) = false) :
  (FileSpec.create base.uri ("/".intercalate spec.names)).isMatch path.uri ↔
   ∃ front, front <+: slotsOf path ∧ Glob (base.names ++ spec.names) front := by
 have slots : Slots (slotsOf path) := by grind [slotsOf, Slots, path.proper]
 rw [isMatch_eq base spec path relative, matchesUnits_iff ?_ slots]
 exact fun comp mem => ((List.mem_append.1 mem).elim (base.proper comp) (spec.proper comp)).solid

theorem isMatch_iff_star :
  let base : Route := ⟨["p"], by decide +kernel⟩
  let spec : Route := ⟨["s?c", "**", "*.py"], by decide +kernel⟩
  let path : Route := ⟨["p", "src", "a.py"], by decide +kernel⟩
  (FileSpec.create base.uri ("/".intercalate spec.names)).isMatch path.uri ∧
   ∃ front, front <+: slotsOf path ∧ Glob ["p", "s?c", "**", "*.py"] front := by
 intro base spec path
 have hit := (isMatch_eq base spec path (by decide +kernel)).trans (by cbv)
 exact ⟨hit, (isMatch_iff base spec path (by decide +kernel)).1 hit⟩

/-- Behind the slash of the root stands no name, but a component that takes the empty text matches there. -/
theorem not_isMatch_iff_names : ¬ ∀ base spec path : Route,
  ((FileSpec.create base.uri ("/".intercalate spec.names)).isMatch path.uri ↔
   ∃ front, front <+: path.names ∧ Glob (base.names ++ spec.names) front) := by
 intro all
 let root : Route := ⟨[], by simp⟩
 let star : Route := ⟨["*"], by decide +kernel⟩
 have hit : matchesUnits (piecesOf false ["*"]) (unitsOf [""]) := by
  change matchesUnits [.unit slash, .anyRun] [slash]
  simp [matchesUnits]
 obtain ⟨front, starts, found⟩ := (all root star root).1 ((isMatch_eq root star root (by decide +kernel)).trans hit)
 simp_all [Glob, root, star]

end TypeChecker.PathPat
