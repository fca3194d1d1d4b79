import TypeChecker.Parser.Expression

/-! The patterns of case clauses. Within a clause a name may be bound once, and the alternatives of a pattern
bind the same names. -/

namespace TypeChecker.Parser

/-! Facts about patterns. -/

variable (node : Node)
def isStarCapture := node.kind matches .patCapture _ true _
def isStarEnt := if let .patAs [only] _ := node.kind then isStarCapture only else false

/-- The name that a pattern binds itself. -/
def ownTgt? :=
 match node.kind with
 | .patAs _ tgt => tgt
 | .patCapture tgt _ isWildcard => if isWildcard then none else tgt
 | .patExpandEnt tgt => tgt
 | _ => none

/-- The patterns below are alternatives. -/
def isChoice := node.kind matches .patAs ..

def subpats :=
 match node.kind with
 | .patSequence pats _ | .patMapping pats | .patCls _ pats | .patAs pats _ => pats
 | .patClsArg _ pat => [pat]
 | .patKeyEnt key value => [key, value]
 | _ => []

theorem sizeOf_subpat {node pat : Node} (isBelow : pat ∈ subpats node) : sizeOf pat < sizeOf node := by
 have below : sizeOf node.kind < sizeOf node := by cases node; simp +arith
 unfold subpats at isBelow
 split at isBelow <;> grind [-> List.sizeOf_lt_of_mem]

def isIrrefutable (node : Node) :=
 node.kind matches .patCapture .. || isChoice node && (subpats node).attach.any fun ⟨pat, _⟩ => isIrrefutable pat
termination_by sizeOf node
decreasing_by exact sizeOf_subpat ‹_›

def tgtNames (names : Strings) (node : Node) :=
 let own := names ++ ((ownTgt? node).toList.map (·.nameVal)).filter (!names.contains ·)
 (subpats node).attach.foldl (fun names ⟨pat, _⟩ => tgtNames names pat) own
termination_by sizeOf node
decreasing_by exact sizeOf_subpat ‹_›

/-! Names bound twice. -/

structure Tgts where
 seen : Nodes := []
 repeated : Nodes := []

def firsts : Nodes -> Nodes
 | [] => []
 | tgt :: rest => tgt :: (firsts rest).filter (·.nameVal != tgt.nameVal)

namespace Tgts
variable (outer : Nodes) (tgts : Tgts)
def add (tgt : Node) :=
 if ((outer ++ tgts.seen).map (·.nameVal)).contains tgt.nameVal then {tgts with repeated := tgts.repeated ++ [tgt]}
 else {tgts with seen := tgts.seen ++ [tgt]}

def merge (each : List Tgts) :=
 (firsts (each.flatMap seen)).foldl (add outer) {tgts with repeated := tgts.repeated ++ each.flatMap repeated}

end Tgts

/-- Alternatives may bind the same names, so each is noted on its own, before what they bind together. -/
def noteTgts (outer : Nodes) (tgts : Tgts) (node : Node) :=
 let own := (ownTgt? node).toList.foldl (.add outer) tgts
 if isChoice node then own.merge outer ((subpats node).attach.map fun ⟨pat, _⟩ => noteTgts own.seen {} pat)
 else (subpats node).attach.foldl (fun tgts ⟨pat, _⟩ => noteTgts outer tgts pat) own
termination_by sizeOf node
decreasing_by all_goals exact sizeOf_subpat ‹_›

/-! Reading. -/

def makeSeq (span : Span) (ents : Nodes) :=
 makeOver span ents.getLast?.toList (.patSequence ents (ents.findIdx? isStarEnt))

def makeAs (orPats : Nodes) (tgt : Node?) :=
 let last := if 1 < orPats.length then orPats.getLast?.toList else []
 makeOver ((orPats.head?.map (·.span)).getD default) (last ++ tgt.toList) (.patAs orPats tgt)

variable (readAs : Parse Node)
def readSeq : Parse NodeList := do
 let nodes <- plainList readAs
 if let _ :: second :: _ := nodes.list.filter isStarEnt then
  if let .patAs (star :: _) _ := second.kind then report "dupStarPat" star
 pure nodes

def startsWithStar := if let .patAs (first :: _) _ := node.kind then isStarCapture first else false

def withoutSign := if let .unary _ .subtract expr _ := node.kind then expr else node

def checkNum (expr : Node) : Parse Unit := do
 let (real, imag) := match expr.kind with
  | .binary lhs _ .subtract rhs _ | .binary lhs _ .add rhs _ => (some lhs, some rhs)
  | .binary .. => (none, none)
  | _ => (expr, none)
 let some real := real | return
 let isReal := if let .number _ isImag := (withoutSign real).kind then !(imag.isSome && isImag) else false
 if !isReal then
  report "wantComplexNumLit" expr
  return
 if let some imag := imag then
  let isImag := if let .number _ isImag := (withoutSign imag).kind then isImag else false
  if !isImag then report "wantComplexNumLit" expr

def litPat? : Parse Node? := do
 let next <- peek
 let lit expr := some <$> make expr.span (.patLit expr)
 match next.kind with
 | .number .. | .op .subtract =>
  let expr <- expression .sum
  checkNum expr
  lit expr
 | .string .. =>
  let strings <- expression .atom
  if let .strList items _ _ := strings.kind then
   items.forM fun item => do if let .formatStr .. := item.kind then report "fStrInPat" item
  lit strings
 | .kw .falseKw | .kw .trueKw | .kw .noneKw => lit (<- expression .atom)
 | _ => pure none

def captureOrVal? : Parse Node? := do
 let cat <- peekCat
 if cat != .ident && cat != .kw then return none
 let node <- loop (none : Node?) fun node => do
  if let some token <- takeName? then
   let name <- makeName token
   let node <- if let some lhs := node then makeOver lhs.span [name] (.memAccess lhs name) else pure name
   return if <- skip .dot then .again node else .done node
  else
   reportNext "wantIdent"
   return .done node
 if let some node := node then match node.kind with
  | .memAccess .. => some <$> make node (.patVal node)
  | _ => some <$> make node (.patCapture node false (node.nameVal == "_"))
 else
  reportNext "wantIdent"
  some <$> makeError (<- peek) .missingPat

def readClsArg : Parse Node := do
 let cat <- peekCat
 let second <- peek 1
 let label <-
  if (cat matches .ident | .kw) && second.isOp .assign then do
   let some token <- takeName? | pure none
   let label <- makeName token
   discard advance
   pure (some label)
  else pure none
 let pat <- readAs
 makeOver pat label.toList (.patClsArg label pat)

def readClsArgs : Parse Nodes := do
 let (args, _) <- loop ((#[] : Array Node), false) fun (args, sawKw) => do
  if [.closeParen, .newLine, .eof].contains (<- peekCat) then return .done (args, sawKw)
  let arg <- readClsArg readAs
  let isKw := if let .patClsArg label _ := arg.kind then label.isSome else false
  if !isKw && sawKw then report "posArgAfterKwArg" arg
  let state := (args.push arg, sawKw || isKw)
  return if <- skip .comma then .again state else .done state
 pure args.toList

def readMappingItem : Parse Node := do
 let star <- peek
 if <- skipOp .power then
  match <- takeName? with
  | none =>
   reportNext "wantIdent"
   return <- makeError (<- peek) .missingPat
  | some token =>
   let name <- makeName token
   if name.nameVal == "_" then report "starStarWild" name
   return <- makeOver star [name] (.patExpandEnt name)
 let missing := do makeError (<- peek).span .missingPat
 let key <- if let some lit <- litPat? then pure lit
  else if let some node <- captureOrVal? then
    if node.kind matches .patVal _ then pure node
    else
     report "wantPatVal" node
     missing
   else
    reportNext "wantPatExpr"
    missing
 let value <-
  if <- skip .colon then readAs
  else
   reportNext "wantColon"
   missing
 makeOver key [value] (.patKeyEnt key value)

def readMapping (first : Token) : Parse Node := do
 let nodes <- plainList (readMappingItem readAs)
 if nodes.items.isEmpty then
  let some error := nodes.error | makeError (<- peek) .missingPat
  pure error
 else
  let isExpand node := node.kind matches .patExpandEnt _
  if let _ :: second :: _ := nodes.list.filter isExpand then report "dupStarStarPat" second
  makeOver first nodes.list.getLast?.toList (.patMapping nodes.list)

def readBracketed (isParenthesis : Bool) : Parse Node := do
 let start <- advance
 let nodes <- readSeq readAs
 let pat <- match nodes.error, nodes.list, nodes.trailComma with
  | some error, _, _ => pure error
  | none, [only], false =>
   if isParenthesis then do
    let pat <- if startsWithStar only then makeSeq start [only] else pure only
    pure (pat.extendTo start)
   else makeSeq start [only]
  | none, items, _ => makeSeq start items
 let close := if isParenthesis then .closeParen else .closeBracket
 let endToken <- peek
 if <- skip close then return pat.extendTo endToken
 report (if isParenthesis then "wantCloseParen" else "wantCloseBracket") start
 discard (skipUntil [.colon, close])
 pure pat

def readClsPat (opening : Token) (clsName : Node) : Parse Node := do
 let args <- readClsArgs readAs
 let pat <- makeOver clsName args.getLast?.toList (.patCls clsName args)
 if <- skip .closeParen then return pat
 report "wantCloseParen" opening
 discard (skipUntil [.newLine])
 return pat.extendTo (<- peek)

def readPatAtom : Parse Node := do
 if let some lit <- litPat? then return lit
 if let some node <- captureOrVal? then
  let opening <- peek
  match node.kind with
  | .patCapture name _ _ => if <- skip .openParen then return <- readClsPat readAs opening name
  | .patVal expr => if <- skip .openParen then return <- readClsPat readAs opening expr
  | _ => pure ()
  return node
 let next <- peek
 match next.kind with
 | .op .multiply =>
  let star <- advance
  if let some token <- takeName? then
   let name <- makeName token
   make (name.span.extend star) (.patCapture name true (name.nameVal == "_"))
  else
   reportNext "wantIdent"
   makeError star .missingExpr
 | .openParen => readBracketed readAs true
 | .openBracket => readBracketed readAs false
 | .openCurlyBrace =>
  let first <- advance
  let mapping <- readMapping readAs first
  let last <- peek
  if <- skip .closeCurlyBrace then return mapping.extendTo last
  report "wantCloseBrace" first
  discard (skipUntil [.colon, .closeCurlyBrace])
  pure mapping
 | _ => recover .missingPat "wantPatExpr"

def checkAlternativeNames (orPats : Nodes) : Parse Unit := do
 let all := orPats.foldl tgtNames []
 orPats.forM fun pat => do
  let own := tgtNames [] pat
  if own.length < all.length then
   let note := Adden.empty.say "orPatGoneNameNote" [quotedList (all.filter (!own.contains ·))]
   report (say "orPatGoneName" ++ note.print) pat

def readAsPat : Parse Node := do
 let orPats <- loop (#[] : Array Node) fun orPats => do
  let orPats := orPats.push (<- readPatAtom readAs)
  return if <- skipOp .bitwiseOr then .again orPats else .done orPats
 let orPats := orPats.toList
 if 1 < orPats.length then
  orPats.forM fun pat => do if isStarCapture pat then report "starPatInOrPat" pat
 let tgt <-
  if <- skipKw .asKw then do
   if let some token <- takeName? then some <$> makeName token
   else
    reportNext "wantNameAfterAs"
    pure none
  else pure none
 if let [only] := orPats then
  if tgt.isSome && isStarCapture only then report "starPatInAsPat" only
 orPats.dropLast.forM fun pat => do if isIrrefutable pat then report "orPatAny" pat
 checkAlternativeNames orPats
 makeAs orPats tgt

def readAsIn : Nat -> Parse Node
 | 0 => do makeError (<- peek) .maxDepthExceeded
 | bound + 1 => readAsPat (readAsIn bound)

variable (caseToken : Token)
def readWholePat : Parse Node := do
 let bound := (<- get).src.tokens.size + 2
 let nodes <- readSeq (readAsIn bound)
 match nodes.error, nodes.list, nodes.trailComma with
 | some error, _, _ => pure error
 | none, [], _ =>
  reportNext "wantPatExpr"
  makeError caseToken .missingPat
 | none, [only], false => if startsWithStar only then makeSeq only [only] else pure only
 | none, first :: rest, _ => makeSeq first (first :: rest)

def readCasePat : Parse Node := do
 let pat <- readWholePat caseToken
 if !pat.isError then
  (noteTgts [] {} pat).repeated.forM fun tgt => report "duplicateCapturePatTgt" tgt [tgt.nameVal]
 pure pat

end TypeChecker.Parser
