import Mathlib.Data.List.Basic
import TypeChecker.Proofs.Text.Runs
import TypeChecker.Path.Uri

/-! Absolute paths as lists of names. Resolving the components from one path to another against the first leads to the
other. -/

namespace TypeChecker.Path
section Pieces
variable {α : Type} [BEq α] [LawfulBEq α] {sep : α} {items : List α}
lemma splitAtEach_append (rest : List α) :
  splitAtEach sep (items ++ sep :: rest) = splitAtEach sep items ++ splitAtEach sep rest := by
 have filled : splitAtEach sep items ≠ [] := by cases items <;> grind [splitAtEach]
 induction items with
 | nil => simp [splitAtEach]
 | cons head items ih => cases items <;> grind [splitAtEach]

lemma splitAtEach_of_not_mem (absent : sep ∉ items) : splitAtEach sep items = [items] := by
 induction items <;> grind [splitAtEach]

end Pieces

/-- Nothing in the text separates names. -/
def IsSolid (text : String) : Prop := ∀ letter ∈ text.toList, letter ≠ '/' ∧ letter ≠ '\\'

/-- What a file or a directory can be called: a step to the same or the upper directory is no name. -/
@[mk_iff] structure IsName (name : String) : Prop where
 filled : name ≠ ""
 proper : name ≠ "." ∧ name ≠ ".."
 solid : IsSolid name

instance : DecidablePred IsSolid := fun _ => List.decidableBAll ..
instance : DecidablePred IsName := fun name => decidable_of_iff _ (isName_iff name).symm

variable {kept names segs parts : Strings} {name text part : String}
lemma resolveDots_append (rest : Strings) :
  resolveDots false kept (segs ++ rest) = resolveDots false (resolveDots false kept segs).reverse rest := by
 fun_induction resolveDots false kept segs <;> simp_all [resolveDots]

lemma resolveDots_names (proper : ∀ name ∈ names, IsName name) : resolveDots false kept names = kept.reverse ++ names := by
 induction names generalizing kept with
 | nil => simp [resolveDots]
 | cons name names ih =>
  obtain ⟨filled, steps, _⟩ := proper name (by simp)
  simp [resolveDots, filled, steps, ih fun name mem => proper name (by simp [mem])]

lemma resolveDots_up (proper : ∀ name ∈ names, IsName name) (rest : Strings) :
  resolveDots false (names ++ kept) (.replicate names.length ".." ++ rest) = resolveDots false kept rest := by
 induction names with
 | nil => rfl
 | cons name names ih =>
  have := (proper name (by simp)).proper.2
  simp_all [List.replicate_succ, resolveDots]

lemma withSlashes_of_not_mem (plain : '\\' ∉ text.toList) : withSlashes text = text := by
 rw [withSlashes, <- String.toList_inj, String.toList_map]
 exact (List.map_congr_left fun letter mem => by grind).trans (List.map_id _)

/-! ## Texts and their segments -/

lemma endsWith_iff {ending : String} (letter : Char) (single : ending.toList = [letter]) :
  text.endsWith ending ↔ text.toList.getLast? = some letter := by
 rw [<- String.endsWith_toSlice, String.Slice.endsWith_string_iff, String.copy_toSlice, single, List.getLast?_eq_some_iff]
 grind [List.IsSuffix]

lemma hasTrailSep_iff : hasTrailSep text ↔ text.toList.getLast? = some '/' ∨ text.toList.getLast? = some '\\' := by
 rw [hasTrailSep, Bool.or_eq_true, endsWith_iff '/' rfl, endsWith_iff '\\' rfl]

/-- What stands between the slashes of a route. -/
def segments (text : String) : Strings := (splitAtEach '/' text.toList).map String.ofList

lemma segments_append (left right : String) : segments (left ++ "/" ++ right) = segments left ++ segments right := by
 simp [segments, splitAtEach_append]

lemma IsSolid.segments (solid : IsSolid text) : segments text = [text] := by
 rw [Path.segments, splitAtEach_of_not_mem fun mem => (solid _ mem).1 rfl]
 simp

lemma segments_join (proper : ∀ name ∈ names, IsName name) (deep : names ≠ []) : segments ("/".intercalate names) = names := by
 induction names with
 | nil => contradiction
 | cons name names ih =>
  have here := (proper name (by simp)).solid.segments
  cases names with
  | nil => simpa
  | cons next names =>
   rw [String.intercalate_cons_cons, segments_append, ih (fun name mem => proper name (by simp [mem])) (by simp), here]
   rfl

lemma resolveDots_join (proper : ∀ name ∈ names, IsName name) :
  resolveDots false kept (segments ("/".intercalate names)) = kept.reverse ++ names := by
 by_cases deep : names = []
 · simp [deep, segments, splitAtEach, resolveDots]
 · rw [segments_join proper deep, resolveDots_names proper]

/-- The text leads from the root to what the names say. -/
def Leads (text : String) (names : Strings) : Prop :=
 (∃ rest, text = "/" ++ rest) ∧ resolveDots false [] (segments text) = names

lemma Leads.join (leads : Leads text names) (relative : isRooted part = false) :
  Leads (joinOne text part) (resolveDots false names.reverse (segments part)) := by
 have none : segments "" = [""] := rfl
 obtain ⟨⟨rest, eq⟩, rfl⟩ := leads
 unfold joinOne
 simp only [relative, beq_iff_eq, Bool.or_false]
 split
 next blank => exact ⟨⟨rest, eq⟩, by simp [blank, none, resolveDots]⟩
 split
 next blank => simp [blank] at eq
 split
 next ends =>
  refine ⟨⟨_, eq ▸ String.append_assoc⟩, ?_⟩
  obtain ⟨front, ends⟩ := List.getLast?_eq_some_iff.1 ((endsWith_iff '/' rfl).1 ends)
  obtain rfl : text = String.ofList front ++ "/" ++ "" := by simp [<- String.toList_inj, ends]
  rw [segments_append, resolveDots_append, none]
  simp [resolveDots, segments_append, resolveDots_append]
 · exact ⟨⟨rest ++ "/" ++ part, by simp [eq, String.append_assoc]⟩, by rw [segments_append, resolveDots_append]⟩

lemma Leads.foldl (leads : Leads text names) (relative : ∀ part ∈ parts, isRooted part = false)
  (solid : ∀ part ∈ parts, IsSolid part) : Leads (parts.foldl joinOne text) (resolveDots false names.reverse parts) := by
 induction parts generalizing text names with
 | nil => simpa [resolveDots] using leads
 | cons part parts ih =>
  rw [List.foldl_cons, <- List.singleton_append, resolveDots_append, <- (solid part (by simp)).segments]
  exact ih (leads.join (relative part (by simp))) (by grind) (by grind)

/-! ## Absolute paths -/

/-- A way down: the names of directories, each in the one before, and of what lies in the last. -/
structure Route where
 names : Strings
 proper : ∀ name ∈ names, IsName name

namespace Route
variable (route : Route)
/-- The path that goes the way from the root. -/
def format : String := "/" ++ "/".intercalate route.names
def uri : Uri := .file {path := route.format}

lemma leads_format : Leads route.format route.names := by
 refine ⟨⟨_, rfl⟩, ?_⟩
 rw [show route.format = "" ++ "/" ++ "/".intercalate route.names by simp [format], segments_append]
 exact resolveDots_join route.proper

lemma toList_join (name : String) (names : Strings) :
  ("/".intercalate (name :: names)).toList = name.toList ++ names.flatMap fun name => '/' :: name.toList := by
 induction names generalizing name with
 | nil => simp
 | cons next names ih => simp [String.intercalate_cons_cons, ih]

lemma toList_format (deep : route.names ≠ []) : route.format.toList = route.names.flatMap fun name => '/' :: name.toList := by
 obtain ⟨name, names, eq⟩ := List.exists_cons_of_ne_nil deep
 rw [format, String.toList_append, eq, toList_join]
 rfl

lemma backslash_not_mem : '\\' ∉ route.format.toList := by
 by_cases deep : route.names = []
 · simp [format, deep]
 · have := fun name mem => (route.proper name mem).solid
   rw [route.toList_format deep, List.mem_flatMap]
   grind [IsSolid]

lemma hasTrailSep_format (deep : route.names ≠ []) : ¬ hasTrailSep route.format := by
 obtain ⟨names, name, eq⟩ := route.names.eq_nil_or_concat.resolve_left deep
 obtain ⟨filled, _, solid⟩ := route.proper name (by simp [eq])
 obtain ⟨front, letter, last⟩ := name.toList.eq_nil_or_concat.resolve_left (by simpa using filled)
 obtain ⟨_, _⟩ := solid letter (by simp [last])
 rw [hasTrailSep_iff, route.toList_format deep]
 simp_all [List.getLast?_cons]

lemma join_eq_empty_iff : "/".intercalate route.names = "" ↔ route.names = [] := by
 refine ⟨fun empty => by_contra fun deep => route.hasTrailSep_format deep ?_, fun root => by simp [root]⟩
 simp [hasTrailSep_iff, format, empty]

lemma splitRoot_format : splitRoot route.format.toList = (['/'], ("/".intercalate route.names).toList) := by
 rw [format, String.toList_append]
 cases eq : route.names with
 | nil => rfl
 | cons name names =>
  obtain ⟨filled, _, solid⟩ := route.proper name (by simp [eq])
  obtain ⟨letter, letters, first⟩ := List.exists_cons_of_ne_nil (show name.toList ≠ [] by simpa using filled)
  rw [toList_join, first]
  simp [splitRoot, (solid letter (by simp [first])).1]

lemma withPath_uri {change : String -> String} {target : Route} (changes : change route.format = target.format) :
  route.uri.withPath change = target.uri := by
 have same : (if isRoot target.format then ensureTrailSep target.format else target.format) = target.format := by
  rw [isRoot, afterRoot, splitRoot_format, ensureTrailSep]
  split
  next root =>
   simp only [String.ofList_toList, Bool.and_eq_true, beq_iff_eq, join_eq_empty_iff] at root
   exact if_pos (by simp [hasTrailSep_iff, format, root.2])
  · rfl
 change (if change route.format == route.format then route.uri else Uri.create (change route.format) true) = _
 rw [changes, Uri.create, same]
 split <;> simp_all [uri]

lemma dropSep_normalize (leads : Leads text route.names) : Uri.dropSep (normalize text) = route.format := by
 obtain ⟨⟨rest, rfl⟩, names⟩ := leads
 have starts : ("/" ++ rest).startsWith "/" = true := by simp
 have one : "/".length = 1 := rfl
 rw [segments] at names
 simp only [normalize, starts, Bool.not_true, names, beq_iff_eq, route.join_eq_empty_iff]
 rw [if_neg (by simp)]
 split
 next root => simp [format, root, withSlashes_of_not_mem, Uri.dropSep, one]
 next deep =>
  change Uri.dropSep (withSlashes (route.format ++ _)) = _
  rw [withSlashes_of_not_mem (by split <;> simpa using route.backslash_not_mem)]
  split
  · have trail : hasTrailSep (route.format ++ "/") := by simp [hasTrailSep_iff]
    have long : 1 < (route.format ++ "/").length := by
     rw [format, String.length_append, String.length_append, one]
     omega
    rw [Uri.dropSep, if_pos long, stripTrailSep, if_pos trail]
    simp
  · rw [String.append_empty, Uri.dropSep, stripTrailSep, if_neg (route.hasTrailSep_format deep)]
    split <;> rfl

lemma comps_uri : route.uri.comps = "/" :: route.names := by
 have pieces : resolveDots false [] (if (segments ("/".intercalate route.names)).getLast? == some "" then
   (segments ("/".intercalate route.names)).dropLast else segments ("/".intercalate route.names)) = route.names := by
  by_cases deep : route.names = []
  · rw [deep]
    rfl
  · rw [segments_join route.proper deep, if_neg fun last => (route.proper "" (List.mem_of_getLast? (by simpa using last))).filled rfl]
    exact resolveDots_names route.proper
 have comps : Path.comps route.format = "/" :: route.names := by
  rw [Path.comps, withSlashes_of_not_mem route.backslash_not_mem, root, afterRoot, splitRoot_format, String.ofList_toList]
  exact congrArg _ pieces
 simp [uri, Uri.comps, comps]

lemma sharedLength_split (idx : Nat) (left right : Strings) : ∃ common up down, left = common ++ up ∧
  right = common ++ down ∧ common.length = sharedLength (fun _ lhs rhs => lhs == rhs) idx left right := by
 fun_induction sharedLength (fun _ lhs rhs => lhs == rhs) idx left right with
 | case1 idx lhs lefts rhs rights same ih =>
  obtain ⟨common, up, down, rfl, rfl, eq⟩ := ih
  exact ⟨lhs :: common, up, down, rfl, by simp_all, by simp [eq]⟩
 | case2 | case3 => exact ⟨[], _, _, rfl, rfl, rfl⟩

/-- The components from one path to another go up to a directory of both and from there down. -/
lemma compsTo_uri (start stop : Route) : ∃ common up down, start.names = common ++ up ∧ stop.names = common ++ down ∧
  start.uri.compsTo stop.uri = .replicate up.length ".." ++ down := by
 obtain ⟨common, up, down, first, last, eq⟩ := sharedLength_split 1 start.names stop.names
 refine ⟨common, up, down, first, last, ?_⟩
 rw [first, last] at eq
 have same : start.uri.sameName = (· == ·) := rfl
 simp [Uri.compsTo, comps_uri, same, sharedLength, <- eq, first, last]

lemma resolve_uri {target : Route} (plain : ∀ part ∈ parts, '\\' ∉ part.toList)
  (leads : Leads (parts.foldl joinOne route.format) target.names) : route.uri.resolve parts = target.uri := by
 have same : parts.map withSlashes = parts :=
  (List.map_congr_left fun part mem => withSlashes_of_not_mem (plain part mem)).trans (List.map_id _)
 refine route.withPath_uri ?_
 rw [Path.resolve, combine, same, withSlashes_of_not_mem route.backslash_not_mem]
 exact target.dropSep_normalize leads

/-- The components from one path to another lead there, unless one of them is taken for a drive. -/
theorem resolve_compsTo (start stop : Route) (relative : ∀ part ∈ start.uri.compsTo stop.uri, isRooted part = false) :
  start.uri.resolve (start.uri.compsTo stop.uri) = stop.uri := by
 obtain ⟨common, up, down, first, last, eq⟩ := compsTo_uri start stop
 have solid : ∀ part ∈ start.uri.compsTo stop.uri, IsSolid part := by
  intro part mem
  rw [eq, List.mem_append] at mem
  rcases mem with above | below
  · simp [List.eq_of_mem_replicate above, IsSolid]
  · exact (stop.proper part (by simp [last, below])).solid
 have reached : resolveDots false start.names.reverse (start.uri.compsTo stop.uri) = stop.names := by
  rw [eq, first, last, List.reverse_append, <- List.length_reverse, resolveDots_up, resolveDots_names, List.reverse_reverse]
  · exact fun name below => stop.proper name (by simp [last, below])
  · exact fun name above => start.proper name (by simp_all)
 refine start.resolve_uri (fun part mem inside => (solid part mem _ inside).2 rfl) ?_
 exact reached ▸ start.leads_format.foldl relative solid

theorem resolve_compsTo_sibling :
  let start : Route := ⟨["a", "b"], by decide +kernel⟩
  let stop : Route := ⟨["a", "c"], by decide +kernel⟩
  start.uri.resolve (start.uri.compsTo stop.uri) = stop.uri :=
 resolve_compsTo _ _ (by rw [Uri.compsTo, comps_uri, comps_uri]; decide +kernel)

theorem not_resolve_compsTo : ¬ ∀ start stop : Route, start.uri.resolve (start.uri.compsTo stop.uri) = stop.uri := fun all =>
 absurd (congrArg Uri.filePath (all ⟨["a"], by decide +kernel⟩ ⟨["a", "c:"], by decide +kernel⟩))
  (by decide +kernel)

end Route
end TypeChecker.Path
