import TypeChecker.Binding.Walk

/-! The list of exports. The binder records its names, and the strings that it is made of, from the statements that set
and change it. -/

namespace TypeChecker.Binding

def valOf (str : Node) : String := Text.toString str.strVal
abbrev entOf (str : Node) : Option (String × Node) := some (valOf str, str)

/-- The items are the strings, each on its own. -/
abbrev Plain (items strs : Nodes) : Prop := items.map plainStr? = strs.map entOf

/-- The strings that the list is made of in a state that statements with literals lead to; the flag says whether strings
may have been recorded before the list was set last. A name is removed only from a list that holds it once. -/
inductive Lists (ctx : Ctx) : State -> Bool -> Nodes -> Prop
 | set (first : !isReset -> state.listedNodes = #[]) (isSeq : sequenceItems? val = some items) (plain : Plain items strs) :
   Lists ctx ((setListed stmt val).run ctx state).2 isReset strs
 | extend (before : Lists ctx state isReset held) (isList : val.kind = .list items) (plain : Plain items strs) :
   Lists ctx ((extendListed stmt val).run ctx state).2 isReset (held ++ strs)
 | extendBy (before : Lists ctx state isReset held) (isList : arg.argVal.kind = .list items) (plain : Plain items strs) :
   Lists ctx ((changeListed stmt "extend" [arg]).run ctx state).2 isReset (held ++ strs)
 | append (before : Lists ctx state isReset held) (plain : plainStr? arg.argVal = entOf str) :
   Lists ctx ((changeListed stmt "append" [arg]).run ctx state).2 isReset (held ++ [str])
 | remove (before : Lists ctx state isReset held) (plain : plainStr? arg.argVal = entOf str)
   (once : valOf str ∉ (held.eraseP (valOf · == valOf str)).map valOf) :
   Lists ctx ((changeListed stmt "remove" [arg]).run ctx state).2 isReset (held.eraseP (valOf · == valOf str))
 | pass (before : Lists ctx state isReset held) (same : later.listed = state.listed)
   (sameNodes : later.listedNodes = state.listedNodes) : Lists ctx later isReset held

variable {ctx : Ctx} {state : State} {isReset : Bool} {stmt val arg str : Node} {items strs held : Nodes}
/-- The names recorded are those of the list, and so are the strings, but for stale ones before them. -/
structure Records (state : State) (isReset : Bool) (held : Nodes) : Prop where
 names : state.listed = some (held.map valOf).toArray
 strs : ∃ stale, state.listedNodes = (stale ++ held).toArray ∧ (!isReset -> stale = [])

namespace Records

theorem add (records : Records state isReset held) :
  Records ((addListed (strs.map fun str => (valOf str, str))).run ctx state).2 isReset (held ++ strs) := by
 obtain ⟨names, stale, nodes, isClean⟩ := records
 refine ⟨?_, stale, ?_, isClean⟩
 all_goals simp [addListed, modify, modifyGet, names, nodes, Function.comp_def]

theorem set (first : !isReset -> state.listedNodes = #[]) (isSeq : sequenceItems? val = some items)
  (plain : Plain items strs) : Records ((setListed stmt val).run ctx state).2 isReset strs := by
 have fresh : Records {state with listed := some #[]} isReset [] :=
  ⟨rfl, state.listedNodes.toList, by simp, by simpa using first⟩
 simp only [setListed, isSeq, Option.getD_some, show items.map plainStr? = _ from plain]
 simpa [List.filterMap_map, bind, pure, modify, modifyGet, Function.comp_def] using fresh.add

theorem extend (records : Records state isReset held) (isList : val.kind = .list items) (plain : Plain items strs) :
  Records ((extendListed stmt val).run ctx state).2 isReset (held ++ strs) := by
 have isAll := congrArg (List.filterMap id) plain
 simp only [List.filterMap_map, Function.comp_def, id] at isAll
 simpa [extendListed, isList, isAll] using records.add

theorem extendBy (records : Records state isReset held) (isList : arg.argVal.kind = .list items) (plain : Plain items strs) :
  Records ((changeListed stmt "extend" [arg]).run ctx state).2 isReset (held ++ strs) := by
 have isAll : (strs.map entOf).takeWhile Option.isSome = strs.map entOf := by
  clear plain
  induction strs <;> simp_all
 have size : strs.length = items.length := by simpa using (congrArg List.length plain).symm
 simpa [changeListed, isList, plain, bind, pure, isAll, size] using records.add

theorem filter_eq_eraseP {name : String} (once : name ∉ (held.eraseP (valOf · == name)).map valOf) :
  held.filter (valOf · != name) = held.eraseP (valOf · == name) := by
 induction held with
 | nil => rfl
 | cons str held known =>
  by_cases isHere : valOf str = name
  · have kept : held.filter (valOf · != name) = held := List.filter_eq_self.mpr (by grind)
    simpa [isHere] using kept
  · simp_all

theorem remove (records : Records state isReset held) (plain : plainStr? arg.argVal = entOf str)
  (once : valOf str ∉ (held.eraseP (valOf · == valOf str)).map valOf) :
  Records ((changeListed stmt "remove" [arg]).run ctx state).2 isReset (held.eraseP (valOf · == valOf str)) := by
 obtain ⟨names, stale, nodes, isClean⟩ := records
 rw [<- filter_eq_eraseP once]
 refine ⟨?_, stale.filter (valOf · != valOf str), ?_, fun isSet => by simp [isClean isSet]⟩
 all_goals simp [changeListed, plain, bind, pure, get, modify, modifyGet, names, nodes, List.filter_map, Function.comp_def, valOf]

end Records

/-- What the binder records of the list. Strings that are no longer part of it stay recorded only where it is set again. -/
theorem lists_recorded (lists : Lists ctx state isReset held) :
  state.listed = some (held.map valOf).toArray ∧ held <:+ state.listedNodes.toList ∧
   (!isReset -> state.listedNodes.toList = held) := by
 have records : Records state isReset held := by
  induction lists with
  | set first isSeq plain => exact .set first isSeq plain
  | extend _ isList plain known => exact known.extend isList plain
  | extendBy _ isList plain known => exact known.extendBy isList plain
  | append _ plain known => simpa [changeListed, plain, bind, pure] using @Records.add ctx _ _ [_] _ known
  | remove _ plain once known => exact known.remove plain once
  | pass _ same sameNodes known => exact ⟨same.trans known.names, by simpa [sameNodes] using known.strs⟩
 obtain ⟨names, stale, nodes, isClean⟩ := records
 exact ⟨names, by simp [nodes], fun isSet => by simp [nodes, isClean isSet]⟩

theorem lists_recorded_append : let str (val : String) : Node := ⟨0, ⟨0, 0⟩, .string default (.ofString val)⟩
  let lit val : Node := ⟨0, ⟨0, 0⟩, .strList [str val] none false⟩
  let ctx : Ctx := ⟨0, {}, #[], .ofTree default 0, fun _ => none, fun _ => none, none, false, fun _ => []⟩
  let first := ((setListed default ⟨0, ⟨0, 0⟩, .list [lit "a"]⟩).run ctx {}).2
  ((changeListed default "append" [lit "b"]).run ctx first).2.listed = some #["a", "b"] := by
 intro str lit ctx first
 have isSet : Lists ctx first false [str "a"] := .set (by simp) rfl rfl
 have isAdded : Lists ctx ((changeListed default "append" [lit "b"]).run ctx first).2 false [str "a", str "b"] :=
  isSet.append rfl
 exact (lists_recorded isAdded).1.trans (by decide +kernel)

end TypeChecker.Binding
