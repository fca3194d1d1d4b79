import TypeChecker.Parser.Pattern

/-! Statements. A suite reads the statements inside it through a reader it is given; `readClauseIn` ties
the knot, with the number of tokens as the bound on the nesting. -/

namespace TypeChecker
namespace Parser

/-! Type parameters. -/

def tyPar? : Parse Node? := do
 let kind <- if <- skipOp .multiply then pure .tyVarTup else do if <- skipOp .power then pure .parSpec else pure .tyVar
 let some token <- takeName?
  | do
    reportNext "wantTyParName"
    pure none
 let name <- makeName token
 let bound <- if <- skip .colon then some <$> expression (.starred false) else pure none
 if let some bound := bound then if kind != .tyVar then report "tyParBoundBarred" bound
 let dfltExpr <- if <- skipOp .assign then some <$> expression (.starred (kind == .tyVarTup)) else pure none
 if let some expr := dfltExpr then if <- runsBefore 13 then report "tyVarDfltBad" expr
 some <$> makeOver name (bound.toList ++ dfltExpr.toList) (.tyPar name kind bound dfltExpr)

def readTyPars : Parse Node := do
 let start <- advance
 let pars <- loop (#[] : Array Node) fun pars => do
  if (<- peekCat) == .closeBracket then
   if pars.isEmpty then reportNext "tyParsGone"
   return .done pars
  let some par <- tyPar? | return .done pars
  let pars := pars.push par
  return if <- skip .comma then .again pars else .done pars
 let close <- peek
 if close.cat == .closeBracket then discard advance
 else
  report "wantCloseBracket" close
  discard (skipUntil [.newLine, .closeBracket, .colon])
 makeOver (start.span.extend close) pars.toList (.tyParList pars.toList)

def tyPars? (msg : String) : Parse Node? := do
 if (<- peekCat) != .openBracket then return none
 let pars <- readTyPars
 if <- runsBefore 12 then report msg pars
 pure pars

def readTyAlias : Parse Node := do
 let start <- advance
 if <- runsBefore 12 then report "tyAliasStmtBad" start
 let name <- makeName ((<- takeName?).getD default)
 let pars <- if (<- peekCat) == .openBracket then some <$> readTyPars else pure none
 if !(<- skipOp .assign) then reportNext "wantEquals"
 let expr <- withHint true (expression (.test false))
 makeOver start [expr] (.tyAlias start name pars expr)

/-! Imports. -/

def readModName (allowJustDots : Bool) := do
 let start := (<- peek).span
 let (span, dots) <- loop (start, 0) fun (span, dots) => do
  let next <- peek
  if <- skip .ellipsis then return .again (span.extend next, dots + 3)
  if <- skip .dot then return .again (span.extend next, dots + 1)
  return .done (span, dots)
 let (span, parts, hasTrailDot) <- loop (span, (#[] : Array Node), false)
  fun (span, parts, _) => do
   match <- takeName? with
   | none =>
    if !allowJustDots || dots = 0 || !parts.isEmpty then
     reportNext "wantModName"
     return .done (span, parts, true)
    return .done (span, parts, false)
   | some token =>
    let part <- makeName token
    let span := span.extend part.span
    let next <- peek
    if <- skip .dot then return .again (span.extend next, parts.push part, false)
    return .done (span, parts.push part, false)
 make span (.modName dots parts.toList hasTrailDot)

def modNameParts (node : Node) : Nat × Strings :=
 if let .modName dots parts _ := node.kind then (dots, parts.map (·.nameVal)) else (0, [])

def isTypingMod (parts : Strings) := parts == ["typing"] || parts == ["typing_extensions"]
def typingSyms := ["Literal", "TypeAlias", "Annotated"]

def bindName (names : ByName String) (name value : String) := (name, value) :: names.filter (·.1 != name)

def aliasOr (asName : Node?) (name : String) :=
 if let some node := asName then if node.nameVal.isEmpty then name else node.nameVal
 else name

def asName? : Parse Node? := do
 if !(<- skipKw .asKw) then return none
 if let some token <- takeName? then some <$> makeName token
 else
  reportNext "wantImpAlias"
  pure none

structure ImportedNames where
 names : Array Node := #[]
 trailComma : Token? := none

def readImportedNames (isFuture : Bool) : Parse ImportedNames :=
 loop {} fun list => do
  let some token <- takeName? | return .done list
  let name <- makeName token
  let asName <- asName?
  let node <- makeOver name asName.toList (.importFromAs name asName)
  if isFuture then
   addFact fun facts =>
    if facts.futureImports.contains name.nameVal then facts
    else {facts with futureImports := facts.futureImports ++ [name.nameVal]}
  let list := {names := list.names.push node}
  let next <- peek
  if <- skip .comma then return .again {list with trailComma := next}
  return .done list

def fromImportParts (modName : Node) (span : Span) : Parse (Span × ImportFromParts Node) := do
 let (dots, parts) := modNameParts modName
 let next <- peek
 if !(<- skipKw .importKw) then
  reportNext "wantImp"
  let hasTrailDot := if let .modName _ _ hasTrailDot := modName.kind then hasTrailDot else false
  return (span, {modName, missingImport := !hasTrailDot})
 let span := span.extend next.span
 let star <- peek
 if <- skipOp .multiply then
  addFact ({· with hasWildcardImport := true})
  return (span.extend star, {modName, isWildcard := true, wildcardToken := star})
 let opening <- peek
 let inParens <- skip .openParen
 let list <- readImportedNames (dots == 0 && parts == ["__future__"])
 let span := span.extendMany (list.names.toList.map (·.span))
 if list.names.isEmpty then reportNext "wantImpSyms"
 let span <-
  if inParens then do
   let close <- peek
   if <- skip .closeParen then pure (span.extend close)
   else
    report "wantCloseParen" opening
    pure span
  else
   if let some comma := list.trailComma then report "trailCommaInFromImp" comma
   pure span
 pure (span, {modName, imports := list.names.toList, usesParens := inParens})

def importFromAsParts (node : Node) :=
 if let .importFromAs name asName := node.kind then (name.nameVal, asName) else ("", none)

def noteTypingNames (parts : ImportFromParts Node) :=
 addFact fun facts =>
  let bound := if parts.isWildcard then typingSyms.map fun name => (name, name)
   else parts.imports.filterMap fun node =>
    let (name, asName) := importFromAsParts node
    if typingSyms.contains name then (aliasOr asName name, name) else none
  {facts with typingNames := bound.foldl (fun names (name, value) => bindName names name value) facts.typingNames}

def readFromImport : Parse Node := do
 let start <- advance
 let modName <- readModName true
 let (span, parts) <- fromImportParts modName (start.span.extend modName)
 let node <- make span (.importFrom parts)
 let (leadingDots, nameParts) := modNameParts modName
 addFact fun facts =>
  {facts with
  imports := facts.imports.push
   {node := modName, leadingDots, nameParts
    syms := (parts.imports.map fun node => (importFromAsParts node).1).eraseDups}}
 if isTypingMod nameParts then noteTypingNames parts
 pure node

def readImportAs : Parse Node := do
 let modName <- readModName false
 let asName <- asName?
 let node <- makeOver modName asName.toList (.importAs modName asName)
 let (leadingDots, nameParts) := modNameParts modName
 if 0 < leadingDots then report "relativeImpBarred" modName
 let imported :=
  if asName.isSome || 0 < leadingDots || nameParts.isEmpty then [nameParts]
  else (List.range nameParts.length).map fun idx => nameParts.take (idx + 1)
 addFact fun facts =>
  {facts with
  imports := facts.imports ++ (imported.map fun nameParts => {node := modName, leadingDots, nameParts}).toArray
  typingMods :=
   if isTypingMod nameParts then facts.typingMods ++ [aliasOr asName (nameParts.headD "")] else facts.typingMods}
 pure node

def readImport := do
 let start <- advance
 let list <- loop (#[] : Array Node) fun list => do
  let list := list.push (<- readImportAs)
  return if <- skip .comma then .again list else .done list
 makeOver start list.back?.toList (.importStmt list.toList)

/-! Other simple statements. -/

def readNames := do
 let names <- loop (#[] : Array Node) fun names => do
  if let some token <- takeName? then
   let names := names.push (<- makeName token)
   return if <- skip .comma then .again names else .done names
  else
   reportNext "wantIdent"
   return .done names
 pure names.toList

def readJump (isBreak : Bool) : Parse Node := do
 let token <- advance
 let around <- around
 if !around.inLoop then report (if isBreak then "breakOutLoop" else "continueOutLoop") token
 else if around.inExcGroup then
  report (if isBreak then "breakInExcGroup" else "continueInExcGroup") token
 if around.inFinallyLoop && !(<- isBefore 14) then report (if isBreak then "finallyBreak" else "finallyContinue") token
 make token (if isBreak then .breakStmt else .continueStmt)

def readReturn : Parse Node := do
 let token <- advance
 let around <- around
 if !around.inFn then report "retOutFn" token
 else if around.inExcGroup then report "retInExcGroup" token
 if around.inFinally && !(<- isBefore 14) then report "finallyRet" token
 if <- startsNoExpr then return <- make token (.returnStmt none)
 let expr <- testOrStarExpr expression true true .missingExpr "wantRetExpr"
 checkStarTup expr
 makeOver token [expr] (.returnStmt expr)

def readRaise := do
 let token <- advance
 if <- startsNoExpr then return <- make token (.raiseStmt none none)
 let expr <- expression (.test true)
 let fromExpr <- if <- skipKw .fromKw then some <$> expression (.test true) else pure none
 makeOver token (expr :: fromExpr.toList) (.raiseStmt expr fromExpr)

def readAssert := do
 let token <- advance
 let test <- expression (.test false)
 let exc <- if <- skip .comma then some <$> expression (.test false) else pure none
 makeOver token (test :: exc.toList) (.assertStmt test exc)

def readDel : Parse Node := do
 let token <- advance
 let nodes <- plainList (expression (.starred true))
 if nodes.error.isNone && nodes.items.isEmpty then reportNext "wantDelExpr"
 makeOver token nodes.list.getLast?.toList (.delStmt nodes.list)

/-! Assignments. -/

def makeAssign (lhs rhs : Node) (cmt chained := none) :=
 makeOver lhs (rhs :: cmt.toList) (.assignment lhs rhs cmt chained)

def readChain (first : Node) := do
 let (tgts, rhs) <- loop (#[first], first) fun (tgts, _) => do
  let rhs <- yieldOrTests expression false "wantPutRhsHandExpr"
  if rhs.isError then return .done (tgts, rhs)
  if <- skipOp .assign then return .again (tgts.push rhs, rhs)
  return .done (tgts, rhs)
 let cmt <- varTyCmt? expression
 let assignment <- if 1 < tgts.size then makeAssign first rhs none cmt else makeAssign first rhs cmt
 (tgts.toList.drop 1).foldlM (fun assignment tgt => makeAssign tgt assignment) assignment

variable (lhs : Node)
def readAnnotated : Parse Node := do
 let hint <- readHint expression
 let node <- makeOver lhs [hint] (.annot lhs hint)
 if <- runsBefore 6 then report "varAnnotBad" hint
 if !(<- skipOp .assign) then return node
 let inHint := (<- isTypingName hint "TypeAlias") || (<- around).inHint
 let rhs <- withHint inHint (yieldOrTests expression false "wantPutRhsHandExpr")
 makeAssign node rhs

def readAug (op : Op) : Parse Node := do
 discard advance
 let rhs <- yieldOrTests expression false "wantRhs"
 checkStarTup rhs 9
 let dest <- make lhs lhs.kind
 makeOver lhs [rhs] (.augmented lhs op rhs dest)

def readExprStmt := do
 let lhs <- testOrStarExpr expression false false .missingExpr "wantExpr"
 if lhs.isError then return lhs
 if <- skip .colon then return <- readAnnotated lhs
 if <- skipOp .assign then return <- readChain lhs
 let some op <- peekOp? | pure lhs
 if op.isAssign then readAug lhs op else pure lhs

def startsTyAlias : Parse Bool := do
 let second <- peek 1
 let third <- peek 2
 let isName := match second.kind with
  | .ident _ => true
  | .kw kw => kw.isSoft
  | _ => false
 return isName && (third.cat == .openBracket || third.isOp .assign)

def readSmall := do
 match <- peekKw? with
 | some .passKw => make (<- advance) .passStmt
 | some .breakKw => readJump true
 | some .continueKw => readJump false
 | some .returnKw => readReturn
 | some .fromKw => readFromImport
 | some .importKw => readImport
 | some .globalKw =>
  let token <- advance
  let names <- readNames
  makeOver token names.getLast?.toList (.globalStmt names)
 | some .nonlocalKw =>
  let token <- advance
  let names <- readNames
  makeOver token names.getLast?.toList (.nonlocalStmt names)
 | some .raiseKw => readRaise
 | some .assertKw => readAssert
 | some .delKw => readDel
 | some .yieldKw => expression .yieldExpr
 | some .typeKw => if <- startsTyAlias then readTyAlias else readExprStmt
 | _ => readExprStmt

def hexText (value : Nat) := String.ofList (Nat.toDigits 16 value)

def readSimple : Parse Node := do
 let first <- peek
 let (span, stmts) <- loop (first.span, (#[] : Array Node)) fun (span, stmts) => do
  let next <- peek
  if next.cat == .invalid then
   discard advance
   let unit := (<- get).src.text.getD next.start 0
   report "invalidTokenChars" next ["\\u" ++ hexText unit.toNat]
   discard (skipUntil [.newLine])
   return .done (span, stmts)
  let node <- readSmall
  let state := (span.extend node.span, stmts.push node)
  if !(<- skipWhen (!node.isError) .semicolon) then return .done state
  if [.newLine, .eof].contains (<- peekCat) then return .done state
  return .again state
 if !(<- skip .newLine) then reportNext "stmtNotDelimited"
 make span (.stmtList first stmts.toList)

/-! Suites. -/

inductive Clause where
 | stmt
 | elifClause

/-- What was read, and whether what follows counts as inside a function. -/
abbrev ClauseReader := Clause -> Parse (Node? × Bool)

variable (token : Token)
def reportIndent (msg : String?) : Parse Unit := do
 if let .indent _ isAmbiguous := token.kind then
  if isAmbiguous then report "mixedTabs" token
  else if let some msg := msg then report msg token.span

def skipUnexpectedIndent : Parse Bool := do
 let next <- peek
 if next.cat != .indent then return false
 discard advance
 reportIndent next "strayIndent"
 pure true

def reportDedent : Parse Unit := do
 if let .dedent _ matchesIndent isAmbiguous := token.kind then
  if !matchesIndent then report "mixedIndent" token
  if isAmbiguous then report "mixedTabs" token

structure SuiteParts where
 span : Span
 stmts : Array Node := #[]
 inFn : Bool

variable (read : ClauseReader)
def nextStmt (inFn : Bool) : Parse (Node? × Bool) := do
 let (node, inFn) <- within ({· with inFn}) (read .stmt)
 if node.isNone then discard (skipUntil [.newLine])
 pure (node, inFn)

def stmtRound (suite : SuiteParts) : Parse (Round SuiteParts) := do
 let (node, inFn) <- nextStmt read suite.inFn
 let suite := {suite with stmts := node.elim suite.stmts suite.stmts.push, inFn}
 return if (<- peekCat) == .eof then .done suite else .again suite

def afterDedent (indent amount : Nat) (suite : SuiteParts) : Parse (Round SuiteParts) := do
 if amount < indent then return .done suite
 if amount = indent then
  let next <- peek
  if <- skip .dedent then return .done {suite with span := suite.span.extend next.span}
 stmtRound read suite

def blockRound (indent : Nat) (suite : SuiteParts) : Parse (Round SuiteParts) := do
 let next <- peek
 match next.kind with
 | .indent .. =>
  discard skipUnexpectedIndent
  stmtRound read suite
 | .dedent amount _ _ =>
  reportDedent next
  let suite <-
   if suite.stmts.isEmpty then pure {suite with span := suite.span.extend next.span}
   else
    discard (skip .dedent)
    pure suite
  afterDedent read indent amount suite
 | _ => stmtRound read suite

def skipBody (span : Span) : Parse Node := do
 if <- skip .newLine then
  discard <| loop (0 : Int) fun depth => do
   let next <- advance
   match next.kind with
   | .indent .. => return .again (depth + 1)
   | .dedent _ _ isAmbiguous =>
    if isAmbiguous then report "mixedTabs" next
    return if depth = 1 then .done 0 else .again (depth - 1)
   | .eof => return .done depth
   | _ => return .again depth
 else discard readSimple
 let state <- get
 let span := if state.idx = 0 then span else span.extend (state.src.tokens.getD (state.idx - 1) default).span
 make span (.suite [] none)

inductive SuiteBody where
 | none | missing | skipped | line
 | block (indent : Nat)

structure SuiteHead where
 span : Span
 cmts : List Token := []
 body : SuiteBody

def openSuite (skipsBody : Bool := false) : Parse SuiteHead := do
 let span := (<- peek).span
 if !(<- skip .colon) then
  report "wantColon" span
  if <- skipUntil [.newLine, .colon] then
   if (<- peekCat) == .colon then discard advance
   else if (<- peek 1).cat != .indent then
    discard advance
    return {span, body := .none}
 if skipsBody then return {span, body := .skipped}
 let cmts := (<- tyCmt?).toList
 if !(<- skip .newLine) then return {span, cmts, body := .line}
 let cmts := cmts ++ (<- tyCmt?).toList
 let next <- peek
 let .indent amount _ := next.kind
  | do
    report "wantBlock" next
    pure {span, cmts, body := .missing}
 discard advance
 reportIndent next none
 pure {span, cmts, body := .block amount}

def fillSuite (isFn : Bool) (head : SuiteHead) : Parse Node := do
 let start := {span := head.span, inFn := isFn}
 let suite <- match head.body with
  | .block indent => loop start (blockRound read indent)
  | .line => pure {start with stmts := #[<- within ({· with inFn := isFn}) readSimple]}
  | .skipped => return <- skipBody head.span
  | _ => pure start
 let stmts := suite.stmts.toList
 makeOver suite.span stmts.getLast?.toList (.suite stmts none)

def readSuite : Parse (Node × List Token) := do
 let head <- openSuite
 pure (<- fillSuite read (<- around).inFn head, head.cmts)

def readBody : Parse Node := return (<- readSuite read).1

def readLoopSuite : Parse (Node × Token?) := do
 let (suite, cmts) <- within ({· with inLoop := true, inFinallyLoop := false}) (readSuite read)
 let cmt := cmts.getLast?
 let suite := if let .suite stmts _ := suite.kind then {suite with kind := .suite stmts cmt} else suite
 pure (suite, cmt)

def elseBody? : Parse Node? := do if <- skipKw .elseKw then some <$> readBody read else pure none

/-! Compound statements. -/

def readIf : Parse Node := do
 let token <- advance
 let test <- expression (.test true)
 let body <- readBody read
 let orElse <- if let some body <- elseBody? read then pure (some body)
  else if (<- peekKw?) == some .elifKw then do pure (<- read .elifClause).1 else pure none
 makeOver token (test :: body :: orElse.toList) (.ifStmt token test body orElse)

def readWhile : Parse Node := do
 let token <- advance
 let test <- expression (.test true)
 let (body, _) <- readLoopSuite read
 let orElse <- elseBody? read
 makeOver token (body :: orElse.toList) (.whileStmt token test body orElse)

def readFor (asyncToken : Token? := none) : Parse Node := do
 let token <- advance
 let tgt <- tgtExpr expression token
 let (iterable, suite, tyCmt, orElse) <-
  if <- skipKw .inKw then do
   let iterable <- testOrStarExpr expression false true .missingExpr "wantInExpr"
   let (suite, cmt) <- readLoopSuite read
   if <- runsBefore 9 then
    if let .tup items false := iterable.kind then
     if let some item := items.find? isUnpack then report "unpOpBarred" item
   pure (iterable, suite, cmt, <- elseBody? read)
  else do
   let iterable <- recover .missingIn "wantIn"
   pure (iterable, <- make (<- peek) (.suite [] none), none, none)
 let span := token.span.extendMany ((suite :: orElse.toList).map (·.span))
 make (asyncToken.elim span (span.extend ·.span))
  (.forStmt {firstToken := token, asyncToken, tgt, iterable, suite, orElse, tyCmt})

structure ExceptClauses where
 clauses : Array Node := #[]
 (sawCatchAll reportedClash : Bool := false)

variable (node : Node) (cases : Array Node)
def isGroupClause := if let .exceptClause parts := node.kind then parts.isGroup else false

def exceptHead (isGroup : Bool) : Parse (Node? × Token?) := do
 if (<- peekCat) == .colon then
  if isGroup then reportNext "exceptGroupNeedsTy"
  return (none, none)
 let nodes <- plainList (expression (.test true))
 let tyExpr <- if let some error := nodes.error then pure error
  else do
   let tyExpr <- tupOrItem nodes false
   if 1 < nodes.items.size && (<- isBefore 14) then report "exceptNeedsParen" tyExpr
   pure tyExpr
 if !(<- skipKw .asKw) then return (tyExpr, none)
 if nodes.error.isNone && 1 < nodes.items.size then report "exceptWithAsNeedsParen" tyExpr
 let name <- takeName?
 if name.isNone then reportNext "wantNameAfterAs"
 pure (tyExpr, name)

def readExcept (token : Token) (list : ExceptClauses) : Parse ExceptClauses := do
 let star <- peek
 let isGroup <- skipOp .multiply
 if isGroup && (<- runsBefore 11) then report "excGroupIncompat" star
 let isClash := !list.reportedClash && list.clauses.any (isGroupClause · != isGroup)
 if isClash then report "exceptGroupMismatch" star
 let (tyExpr, nameToken) <- exceptHead isGroup
 match tyExpr with
 | none => if list.sawCatchAll then report "dupCatchAll" token
 | some expr => if list.sawCatchAll then report "kwExceptAfterCatchAll" expr
 let suite <- within (fun around => {around with inExcGroup := around.inExcGroup || isGroup}) (readBody read)
 let name <- nameToken.mapM makeName
 let node <- makeOver token [suite] (.exceptClause {tyExpr, name, suite, isGroup, token})
 return {clauses := list.clauses.push node, sawCatchAll := list.sawCatchAll || tyExpr.isNone
         reportedClash := list.reportedClash || isClash}

def readTry : Parse Node := do
 let token <- advance
 let suite <- readBody read
 let list <- loop ({} : ExceptClauses) fun list => do
  let next <- peek
  if <- skipKw .exceptKw then return .again (<- readExcept read next list)
  return .done list
 let clauses := list.clauses.toList
 let orElse <- if clauses.isEmpty then pure none else elseBody? read
 let finalSuite <-
  if <- skipKw .finallyKw then
   some <$> within (fun around => {around with inFinally := true, inFinallyLoop := around.inLoop}) (readBody read)
  else pure none
 if finalSuite.isNone && clauses.isEmpty then report "tryWithoutExcept" token
 makeOver token (suite :: (clauses.getLast?.toList ++ orElse.toList ++ finalSuite.toList))
  (.tryStmt {firstToken := token, suite, clauses, orElse, finalSuite})

def readWithItem := do
 let expr <- expression (.test true)
 let tgt <- if <- skipKw .asKw then some <$> expression (.starred false) else pure none
 makeOver expr tgt.toList (.withItem expr tgt)

def readWithItems : Parse Nodes := do
 let items <- loop (#[] : Array Node) fun items => do
  let items := items.push (<- readWithItem)
  if !(<- skip .comma) || (<- peekCat) == .closeParen then return .done items
  return .again items
 pure items.toList

def startsParensItems : Parse Bool := do
 if (<- peekCat) != .openParen then return false
 trial do
  discard advance
  let items <- readWithItems
  let isClosed := (<- peekCat) == .closeParen && (<- peek 1).cat == .colon
  return isClosed && if let [only] := items then (only.kind matches .withItem _ (some _)) else true

variable (asyncToken : Token? := none)
def readWith : Parse Node := do
 let token <- advance
 let opening <- peek
 let inParens <- startsParensItems
 if inParens then
  discard advance
  if <- isBefore 9 then report "parenWithStmtBad" opening
 let items <- readWithItems
 if inParens then if !(<- skip .closeParen) then report "wantCloseParen" opening
 let (suite, cmts) <- readSuite read
 let span := token.span.extend suite.span
 make (asyncToken.elim span (span.extend ·.span))
  (.withStmt {firstToken := token, asyncToken, items, suite, tyCmt := cmts.getLast?})

/-! Definitions. -/

def readFnTyCmt (read : Reader) : Parse Node? := do
 let opening <- peek
 if !(<- skip .openParen) then
  reportNext "wantOpenParen"
  return none
 let pars <- loop (#[] : Array Node) fun pars => do
  if [.closeParen, .newLine, .eof].contains (<- peekCat) then return .done pars
  if !(<- skipOp .multiply) then discard (skipOp .power)
  let pars := pars.push (<- readHint read)
  return if <- skip .comma then .again pars else .done pars
 if !(<- skip .closeParen) then
  report "wantCloseParen" opening
  discard (skipUntil [.colon])
 if !(<- skip .arrow) then
  reportNext "fnTyCmtRet"
  return none
 let retHint <- readHint read
 let isEllipsis := if let [only] := pars.toList then (only.kind matches .ellipsis) else false
 let pars := if isEllipsis then [] else pars.toList
 some <$> makeOver opening [retHint] (.fnTyCmt isEllipsis pars retHint)

/-- The head of a function or class, and how the whole is made once its suite is read. -/
structure Defn where
 isFn : Bool
 finish : Node -> List Token -> Parse Node

/-- A statement that is read to its end, or the head of a definition. -/
abbrev Heading := Node? ⊕ Defn
def Heading.whole : Heading := .inl node

def defHead (decos : Nodes := []) : Parse Heading := do
 let token <- advance
 let some nameToken <- takeName?
  | do
    report "wantFnName" token
    .whole <$> makeError token .missingFnParList none decos
 let tyPars <- tyPars? "fnDefTyParsBad"
 let opening <- peek
 if !(<- skip .openParen) then
  report "wantOpenParen" opening
  let name <- makeName nameToken
  return .whole (<- makeError nameToken .missingFnParList name decos)
 let pars <- readPars expression .closeParen true
 if !(<- skip .closeParen) then
  report "wantCloseParen" opening
  discard (skipUntil [.colon])
 let retHint <- if <- skip .arrow then some <$> readHint expression else pure none
 let finish suite cmts := do
  let name <- makeName nameToken
  let cmt <- match cmts with
   | first :: _ => readTyCmt first (readFnTyCmt expression)
   | [] => pure none
  let span := token.span.extend suite.span
  makeOver (asyncToken.elim span (span.extend ·.span)) (decos.take 1 ++ retHint.toList ++ cmt.toList)
   (.fnDef
    {firstToken := token, decos, isAsync := asyncToken.isSome, name, tyPars, pars
     retHint, hintCmt := cmt, suite})
 return .inr {isFn := true, finish}

def clsHead (decos : Nodes := []) : Parse Heading := do
 let token <- advance
 let nameToken <- if let some token <- takeName? then pure token
  else do
   reportNext "wantClsName"
   pure {span := ⟨0, 0⟩, kind := .ident ""}
 let tyPars <- tyPars? "clsDefTyParsBad"
 let opening <- peek
 let args <-
  if <- skip .openParen then do
   let list <- readArgs expression
   if !(<- skip .closeParen) then report "wantCloseParen" opening
   pure list.args.toList
  else pure []
 let finish suite _ := do
  let name <- makeName nameToken
  makeOver token (suite :: decos.take 1) (.clsDef {firstToken := token, decos, name, tyPars, args, suite})
 return .inr {isFn := false, finish}

/-- A definition that lacks its block leaves what follows as if it stood inside it. -/
def readDefn (definition : Defn) : Parse (Node? × Bool) := do
 let head <- openSuite (<- opts).skipBodies
 let fill := fillSuite read definition.isFn head
 let suite <-
  if definition.isFn then
   within ({· with inExcGroup := false, inFinally := false, inFinallyLoop := false}) fill
  else fill
 let node <- definition.finish suite head.cmts
 let inFn := (<- around).inFn
 pure (node, if head.body matches .missing then definition.isFn else inFn)

def isDottedNameIn : Nat -> Node -> Bool
 | 0, _ => false
 | bound + 1, node => match node.kind with
  | .name .. => true
  | .memAccess lhs _ => isDottedNameIn bound lhs
  | _ => false

def readDeco : Parse Node := do
 let token <- advance
 let expr <- expression (.test true)
 if <- isBefore 9 then
  let bound := (<- get).nextId
  let isPlain := isDottedNameIn bound expr || if let .call lhs _ _ := expr.kind then isDottedNameIn bound lhs else false
  if !isPlain then report "decoFormBad" expr
 let node <- makeOver token [expr] (.deco expr)
 if !(<- skip .newLine) then
  reportNext "wantDecoNewline"
  discard (skipUntil [.newLine])
 pure node

def makeUndecorated (decos : Nodes) : Parse Node := do
 let start := ⟨(decos.head?.map (·.start)).getD 0, 0⟩
 let name <- make start (.name "" {span := ⟨0, 0⟩, kind := .ident ""})
 let suite <- make start (.suite [] none)
 makeOver start decos (.clsDef {firstToken := {span := ⟨0, 0⟩, kind := .kw .classKw}, decos, name, suite})

def readDecorated : Parse Heading := do
 let decos <- loop (#[] : Array Node) fun decos => do
  if (<- peekOp?) == some .matrixMultiply then return .again (decos.push (<- readDeco))
  return .done decos
 let decos := decos.toList
 let next <- peek
 match next.kind with
 | .kw .asyncKw =>
  discard advance
  if (<- peekKw?) == some .defKw then return <- defHead next decos
  reportNext "wantFnAfterAsync"
 | .kw .defKw => return <- defHead none decos
 | .kw .classKw => return <- clsHead decos
 | _ => pure ()
 reportNext "wantAfterDeco"
 .whole <$> makeUndecorated decos

/-! Match statements. -/

def readCase? : Parse Node? := do
 let token <- peek
 if !(<- skipKw .caseKw) then
  report "wantCase" token
  return none
 let pat <- readCasePat token
 let guard <- if <- skipKw .ifKw then some <$> expression (.test true) else pure none
 let suite <- readBody read
 some <$> makeOver token [suite] (.caseClause pat (isIrrefutable pat) guard suite)

def nextCase : Parse (Array Node) := do
 if let some node <- readCase? read then return cases.push node
 else
  if <- skipUntil [.newLine, .colon] then discard advance
  pure cases

def caseRound : Parse (Round (Array Node)) := do
 discard skipUnexpectedIndent
 let cases <- nextCase read cases
 let next <- peek
 if <- skip .dedent then
  reportDedent next
  return .done cases
 if next.cat == .eof then return .done cases
 return .again cases

def matchSubj := testOrStarExpr expression true true .missingPatSubj "wantRetExpr"

def startsMatch : Parse Bool := do
 let rulesOut : Bool := match (<- peek 1).kind with
  | .colon | .semicolon | .comma | .dot | .newLine _ | .eof => true
  | .op op => !([.multiply, .add, .bitwiseInvert, .subtract].contains op)
  | _ => false
 if rulesOut then return false
 trial do
  discard advance
  let subj <- matchSubj
  return !subj.isError && (<- peekCat) == .colon

def readMatchBlock (colon : Token) : Parse (Array Node) := do
 if !(<- skip .newLine) then
  report "wantNewline" colon
  return #[]
 let next <- peek
 if <- skip .indent then reportIndent next none else reportNext "wantBlock"
 loop #[] (caseRound read)

def readMatch : Parse Node := do
 let token <- advance
 let subj <- matchSubj
 let colon <- peek
 let (span, cases) <-
  if <- skip .colon then do
   let cases <- readMatchBlock read colon
   if cases.isEmpty then report "zeroCaseStmts" token
   pure (colon.span :: (cases.back?.toList.map (·.span)), cases.toList)
  else do
   report "wantColon" colon
   if <- skipUntil [.newLine, .colon] then discard advance
   pure ([], [])
 if <- isBefore 10 then report "matchIncompat" token
 cases.dropLast.forM fun node => do
  if let .caseClause pat true none _ := node.kind then report "casePatIsAny" pat
 make (token.span.extendMany (subj.span :: span)) (.matchStmt token subj cases)

/-! The knot. -/

def readAsync : Parse Heading := do
 let token <- advance
 match <- peekKw? with
 | some .defKw => defHead token
 | some .withKw => .whole <$> readWith read token
 | some .forKw => .whole <$> readFor read token
 | _ =>
  report "strayAsyncToken" token
  return .inl none

def readHeading : Parse Heading := do
 if <- skip .dedent then reportNext "unindentNotExpected"
 match <- peekKw? with
 | some .ifKw => return .whole (<- readIf read)
 | some .whileKw => return .whole (<- readWhile read)
 | some .forKw => return .whole (<- readFor read)
 | some .tryKw => return .whole (<- readTry read)
 | some .withKw => return .whole (<- readWith read)
 | some .defKw => return <- defHead
 | some .classKw => return <- clsHead
 | some .asyncKw => return <- readAsync read
 | some .matchKw => if <- startsMatch then return .whole (<- readMatch read)
 | _ => pure ()
 if (<- peekOp?) == some .matrixMultiply then readDecorated else return .whole (<- readSimple)

def readStmt := do
 match <- readHeading read with
 | .inl node => pure (node, (<- around).inFn)
 | .inr definition => readDefn read definition

def readClauseIn : Nat -> ClauseReader
 | 0, _ => do
  discard advance
  pure (none, false)
 | bound + 1, .stmt => readStmt (readClauseIn bound)
 | bound + 1, .elifClause => return ((<- readIf (readClauseIn bound)), false)

structure ModParts where
 stmts : Array Node := #[]
 inFn := false

def modRound (parts : ModParts) : Parse (Round ModParts) := do
 if <- atEnd then return .done parts
 if <- skip .newLine then return .again parts
 discard skipUnexpectedIndent
 let bound := (<- get).src.tokens.size + 1
 let (node, inFn) <- nextStmt (readClauseIn bound) parts.inFn
 return .again {stmts := node.elim parts.stmts parts.stmts.push, inFn}

def readMod : Parse Nodes := return (<- loop {} modRound).stmts.toList

end Parser

structure ParsedSrc where
 text : Text
 tokenized : TokenizedText
 tree : Node
 facts : SrcFacts
 diags : Array Diag
 nextId : Nat

namespace ParsedSrc
variable (src : ParsedSrc)
def lines := src.tokenized.lines
def contentHash := hashText src.text

end ParsedSrc
variable (text : Text)
def parseSrc? (opts : ParseOpts := {}) (firstId : Nat := 1) : Except ScanError ParsedSrc := do
 let tokenized <- tokenize? text {cells := opts.cells}
 let start := {src := {text, opts, tokens := tokenized.tokens, lines := tokenized.lines}, nextId := firstId + 1}
 let (stmts, state) := Parser.readMod.run start
 if let some error := state.fault then .error error
 else
  let tree := {id := firstId, span := ⟨0, text.size⟩, kind := .modNode stmts}
  .ok {text, tokenized, tree, facts := state.facts, diags := state.sink.diags, nextId := state.nextId}

inductive ExprMode where
 | expression | varHint | fnHint
 deriving DecidableEq

structure ParsedExpr where
 tree : Node?
 diags : Array Diag
 lines : LineTable
 nextId : Nat

def Parser.readText : ExprMode -> Parse Node?
 | .varHint => some <$> readHint expression
 | .fnHint => readFnTyCmt expression
 | .expression => do
  let nodes <- testOrStarList expression false true
  if let some error := nodes.error then pure error
  else
   if nodes.items.isEmpty then reportNext "wantExpr"
   some <$> tupOrItem nodes false

def parseExpr? (scan : ScanOpts := {}) (opts : ParseOpts := {}) (mode : ExprMode := .expression)
  (typingNames : ByName String := []) (firstId : Nat := 1) : Except ScanError ParsedExpr := do
 let tokenized <- tokenize? text {scan with cells := opts.cells}
 let start :=
  {src := {text, opts, tokens := tokenized.tokens, lines := tokenized.lines}
   around := {inQuotedText := mode != .expression}, nextId := firstId, facts := {typingNames}}
 let (tree, state) := (Parser.wholly (Parser.readText mode)).run start
 if let some error := state.fault then .error error
 else .ok {tree, diags := state.sink.diags, lines := tokenized.lines, nextId := state.nextId}

end TypeChecker
