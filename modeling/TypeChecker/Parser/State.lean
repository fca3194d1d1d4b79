import TypeChecker.Message.Text
import TypeChecker.Token.Scanner
import TypeChecker.StaticCondition

/-! The state of a parse: the tokens of a text with the place reached in them, what the surrounding constructs
allow, and what was found on the way. -/

namespace TypeChecker

structure ParseOpts where
 isStub := false
 ver : Ver := .latest
 cells := false
 skipBodies := false
 reportQuoted := false

structure ImportedMod where
 node : Node
 leadingDots : Nat
 nameParts : Strings
 syms : Option Strings := none

structure SrcFacts where
 imports : Array ImportedMod := #[]
 futureImports : Strings := []
 hasWildcardImport := false
 typingMods : Strings := []
 typingNames : ByName String := []
 hasHints := false

namespace Parser

structure Src where
 text : Text
 opts : ParseOpts
 tokens : Array Token
 lines : LineTable

structure Surroundings where
 (inLoop inFn inExcGroup inHint inQuotedText inFinally inFinallyLoop : Bool := false)
 walrusAllowed := true
 isTrial := false

structure State where
 src : Src
 idx := 0
 around : Surroundings := {}
 nextId : Nat
 depths : Std.HashMap Nat Nat := {}
 sink : DiagSink := {}
 facts : SrcFacts := {}
 fault : Option ScanError := none

/-- What a reading leaves as it was, and where in the tokens it may stop. -/
structure Keeps (before after : State) : Prop where
 src : after.src = before.src
 around : after.around = before.around
 onward : before.idx <= after.idx
 inside : before.idx < before.src.tokens.size -> after.idx < before.src.tokens.size

theorem Keeps.refl (state : State) : Keeps state state := ⟨rfl, rfl, Nat.le_refl _, id⟩

theorem Keeps.trans {first second third : State} (before : Keeps first second) (after : Keeps second third) :
  Keeps first third :=
 ⟨after.src.trans before.src, after.around.trans before.around, Nat.le_trans before.onward after.onward,
  fun inside => before.src ▸ after.inside (before.src ▸ before.inside inside)⟩

end Parser

structure Parse (α : Type) where
 run : Parser.State -> α × Parser.State
 keeps (state : Parser.State) : Parser.Keeps state (run state).2

@[always_inline] instance : Monad Parse where
 pure value := ⟨fun state => (value, state), .refl⟩
 bind first next :=
  {run := fun state => let done := first.run state; (next done.1).run done.2
   keeps := fun state => (first.keeps state).trans ((next _).keeps _)}

namespace Parser

@[inline] def get : Parse State := ⟨fun state => (state, state), .refl⟩

@[inline] def modify (change : State -> State) (keeps : ∀ state, Keeps state (change state) := by
  exact fun _ => ⟨rfl, rfl, Nat.le_refl _, fun inside => inside⟩) : Parse Unit :=
 ⟨fun state => ((), change state), keeps⟩

/-- Makes the reading only when it is run. -/
@[inline] def delay {α : Type} (body : Unit -> Parse α) : Parse α := ⟨((body ()).run ·), fun _ => (body ()).keeps _⟩

/-! Tokens. -/

def peek (ahead : Nat := 0) : Parse Token := do
 let state <- get
 let tokens := state.src.tokens
 return tokens.getD (state.idx + ahead) (tokens.back?.getD default)

def prev : Parse Token := do
 let state <- get
 return state.src.tokens.getD (state.idx - 1) default

def atEnd : Parse Bool := do
 let state <- get
 return state.src.tokens.size <= state.idx + 1

def advance : Parse Token := do
 let token <- peek
 modify (fun state => if state.src.tokens.size <= state.idx + 1 then state else {state with idx := state.idx + 1})
  fun state => by
   split
   · exact .refl state
   · exact ⟨rfl, rfl, Nat.le_succ _, fun _ => Nat.lt_of_not_le ‹_›⟩
 pure token

def peekCat := return (<- peek).cat
def peekKw? : Parse (Option Kw) := return if let .kw kw := (<- peek).kind then kw else none
def peekOp? : Parse (Option Op) := return if let .op op := (<- peek).kind then op else none

def skipIf (test : Token -> Bool) : Parse Bool := do
 if test (<- peek) then
  discard advance
  return true
 pure false

abbrev skip (cat : TokenCat) := skipIf (·.cat == cat)
def skipWhen (isGoal : Bool) (cat : TokenCat) := if isGoal then skip cat else pure false
abbrev skipKw (kw : Kw) := skipIf (·.isKw kw)
abbrev skipOp (op : Op) := skipIf (·.isOp op)

/-! Loops. -/

inductive Round (σ : Type) where
 | again (value : σ)
 | done (value : σ)

def rounds {σ : Type} (step : σ -> Parse (Round σ)) : Nat -> σ -> Parse σ
 | 0, value => pure value
 | fuel + 1, value => do
  match <- step value with
  | .again value => rounds step fuel value
  | .done value => pure value

def loop {σ : Type} (start : σ) (step : σ -> Parse (Round σ)) : Parse σ := do
 rounds step ((<- get).src.tokens.size + 1) start

def skipUntil (stops : List TokenCat) :=
 loop false fun _ => do
  let cat <- peekCat
  if stops.contains cat then return .done true
  if cat == .eof then return .done false
  discard advance
  return .again false

/-! Errors. -/

variable (name : String)
def report (span : Span) (vals : Strings := []) : Parse Unit :=
 modify fun state =>
  let diag := {cat := .error, msg := say name vals, range := state.src.lines.rangeOf span}
  {state with sink := if state.around.isTrial then state.sink else state.sink.add diag}

def reportNext := do report name (<- peek).span

/-! Options. -/

def opts : Parse ParseOpts := return (<- get).src.opts

variable (minor : Int)
def isBefore : Parse Bool := return (<- opts).ver.isLessThan (.three minor)

def runsBefore : Parse Bool := do
 let opts <- opts
 return !opts.isStub && opts.ver.isLessThan (.three minor)

/-! Surroundings. -/

def around : Parse Surroundings := return (<- get).around

section
variable {α : Type}
def within (change : Surroundings -> Surroundings) (body : Parse α) : Parse α where
 run state :=
  let around := state.around
  let (res, after) := body.run {state with around := change around}
  (res, {after with around})
 keeps _ := {body.keeps _ with around := rfl}

def withHint (inHint : Bool) : Parse α -> Parse α := within ({· with inHint})

variable (body : Parse α)
/-- Goes back to where it began, unless what was found is kept. -/
def rewind (isKept : α -> Bool := fun _ => false) : Parse α where
 run state :=
  let idx := state.idx
  let (res, after) := body.run state
  (res, {after with idx := if isKept res then after.idx else idx})
 keeps state := by
  have kept := body.keeps state
  refine {kept with onward := ?_, inside := fun inside => ?_} <;> dsimp only <;> split
  · exact kept.onward
  · exact Nat.le_refl _
  · exact kept.inside inside
  · exact inside

def trial := rewind (within ({· with isTrial := true}) body)

end

def addFact (change : SrcFacts -> SrcFacts) := modify fun s => {s with facts := change s.facts}

/-! Nodes. -/

variable (token : Token) (span : Span) (cat : ErrorCat)
def make (kind : NodeKind Node) : Parse Node := do
 let id := (<- get).nextId
 modify ({· with nextId := id + 1})
 pure {id, span, kind}

def makeOver (parts : Nodes) (kind : NodeKind Node) := make (span.extendMany (parts.map (·.span))) kind

def makeError (child : Node? := none) (decos : Nodes := []) :=
 makeOver span (child.toList ++ decos.take 1) (.error cat child decos)

def nameOf := if let .ident value := token.kind then value else ""
def makeName := make token.span (.name (nameOf token) token)

def takeName? : Parse Token? := do
 let token <- peek
 match token.kind with
 | .ident _ => pure (<- advance)
 | .invalid =>
  discard advance
  report "invalidIdentChar" token
  return some {token with kind := .ident ""}
 | .kw kw =>
  if kw.isSoft then
   discard advance
   return some {token with kind := .ident kw.spelling}
  pure none
 | _ => pure none

def maxDepth := 256
def depthOf (node : Node) : Parse Nat := return (<- get).depths.getD node.id 0

def limitDepth (operands : Nodes) (node : Node) : Parse Node := do
 let depth := (<- operands.mapM depthOf).foldl max 0
 if maxDepth <= depth then
  report "maxParseDepth" node
  makeError node .maxDepthExceeded
 else
  modify fun s => {s with depths := s.depths.insert node.id (depth + 1)}
  pure node

def recover (msg : String) (tgt : Token? := none)
  (child : Node? := none) (stops : List TokenCat := []) : Parse Node := do
 let next <- peek
 report msg (tgt.getD next)
 let stops := .newLine :: stops
 let span :=
  if stops.contains next.cat then (tgt.map (·.span)).getD ((child.map (·.span)).getD ⟨next.start, 0⟩)
  else next.span
 let node <- makeError span cat child
 discard (skipUntil stops)
 pure node

def startsNoExpr : Parse Bool := return match (<- peek).kind with
 | .kw .forKw | .kw .inKw | .kw .ifKw => true
 | .op op => op.isAssign && op != .matrixMultiplyEqual
 | .indent .. | .dedent .. | .newLine _ | .eof | .semicolon | .closeParen
 | .closeBracket | .closeCurlyBrace | .comma | .colon | .exclamationMark | .fStrMiddle ..
 | .fStrEnd _ => true
 | _ => false

/-! Texts within the text. -/

def wholly {α : Type} (body : Parse α) : Parse α := do
 let res <- body
 if (<- peekCat) == .newLine then discard advance
 if !(<- atEnd) then reportNext "strayExprToken"
 pure res

def nested {α : Type} (start length depth : Nat) (body : Parse α) : Parse (Option (α × Array Diag)) where
 run state :=
  let opts := {start := some start, length := some length, depth, cells := state.src.opts.cells}
  match tokenize? state.src.text opts with
  | .error error => (none, {state with fault := state.fault.or error})
  | .ok scanned =>
   let (res, after) := (wholly body).run {state with
    src := {state.src with tokens := scanned.tokens, lines := scanned.lines}
    idx := 0, around := {inQuotedText := true}, depths := {}, sink := {}
    facts := {typingNames := state.facts.typingNames}}
   ((res, after.sink.diags), {state with nextId := after.nextId, fault := after.fault})
 keeps state := by
  dsimp only
  split <;> exact ⟨rfl, rfl, Nat.le_refl _, id⟩

end Parser
end TypeChecker
