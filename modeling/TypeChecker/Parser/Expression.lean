import TypeChecker.Parser.State

/-! Expressions. -/

namespace TypeChecker.Parser

inductive Phrase where
 | test (walrus : Bool)
 | testOrStar (walrus : Bool)
 | starred (unpack : Bool)
 | walrus (allowed : Bool)
 | lambda (conditional : Bool)
 | yieldExpr
 | orTest | notTest | comparison | sum | factor | atom

abbrev Reader := Phrase -> Parse Node

/-! Lists. -/

structure NodeList where
 items : Array Node := #[]
 trailComma := false
 error : Node? := none

namespace NodeList
variable (nodes : NodeList)
def list := nodes.items.toList
def push (node : Node) := {nodes with items := nodes.items.push node}

end NodeList

def itemList (item : Parse (Node × Bool)) : Parse NodeList :=
 loop {} fun nodes => do
  if <- startsNoExpr then return .done nodes
  let (node, isFinal) <- item
  if node.isError then return .done {nodes with error := node}
  let nodes := nodes.push node
  if isFinal then return .done nodes
  if !(<- skip .comma) then return .done {nodes with trailComma := false}
  return .again {nodes with trailComma := true}

def plainList (item : Parse Node) := itemList do pure (<- item, false)

variable (node : Node)
def isUnpack := node.kind matches .unpack ..

variable (nodes : NodeList)
def tupOrItem (hasParens : Bool) : Parse Node := do
 match nodes.list, nodes.trailComma with
 | [only], false =>
  if isUnpack only then report "unpOpBarred" only
  pure only
 | items, _ =>
  let start <- match items with
   | first :: _ => pure first.span
   | [] => pure (<- prev).span
  makeOver start items.getLast?.toList (.tup items hasParens)

def listOrError : Parse Node := do
 let some error := nodes.error | tupOrItem nodes false
 pure error

variable (read : Reader) (walrus manyStars : Bool)
def testOrStarList : Parse NodeList := do
 let nodes <- plainList (read (.testOrStar walrus))
 if !manyStars && nodes.error.isNone then
  if let _ :: second :: _ := nodes.list.filter isUnpack then report "dupUnp" second
 pure nodes

def testOrStarExpr (cat : ErrorCat) (msg : String) : Parse Node := do
 if <- startsNoExpr then recover cat msg else listOrError (<- testOrStarList read walrus manyStars)

def tgtExpr (forToken : Token) : Parse Node := do
 if <- startsNoExpr then
  report "wantExpr" forToken
  makeError forToken .missingExpr
 else listOrError (<- plainList (read (.starred true)))

/-! Annotations. -/

def readHint (allowUnpack : Bool := false) : Parse Node := do
 let hint <- withHint true do
  let start <- peek
  let isUnp <- skipOp .multiply
  if isUnp && allowUnpack && !(<- around).inQuotedText && (<- runsBefore 11) then report "unpIdxBad" start
  let hint <- read (.test false)
  if isUnp then makeOver start [hint] (.unpack start hint) else pure hint
 addFact ({· with hasHints := true})
 pure hint

def tyCmt? : Parse Token? := do
 let state <- get
 if state.idx = 0 then return none
 let cur := state.src.tokens.getD (state.idx - 1) default
 let next := state.src.tokens.getD state.idx default
 let pos := cur.stop
 if pos = next.start then return none
 let between := state.src.text.slice pos next.start
 let mark := between.skipWhile isBlank 0
 if between.getD mark 0 != 0x23 then return none
 let word := between.skipWhile isBlank (mark + 1)
 if !between.hasAt "type:" word then return none
 let start := between.skipWhile isBlank (word + 5)
 let stop := between.skipWhile (fun unit => unit != 0x0A && unit != 0x0D) start
 let content := between.slice start stop
 let shown := content.trim
 let isIgnore := shown.hasAt "ignore" 0 && (shown.size = 6 || isBlank (shown.getD 6 0) || shown.getD 6 0 == 0x5B)
 if isIgnore then return none
 return some {span := ⟨pos + start, stop - start⟩, kind := .string {} content 0}

def readTyCmt (cmt : Token) (body : Parse Node?) : Parse Node? := do
 let some (res, diags) <- nested cmt.start cmt.span.length 0 body | pure none
 diags.forM (report ·.msg cmt)
 pure res

def varTyCmt? : Parse Node? := do
 let some cmt <- tyCmt? | pure none
 readTyCmt cmt (some <$> readHint read)

/-! Parameters and lambdas. -/

def readPar (allowHints : Bool) : Parse Node := do
 let first <- peek
 let cat <- if <- skipOp .multiply then pure .argsList else do if <- skipOp .power then pure .kwargsDict else pure .simple
 let isSlash <- if cat == .simple then skipOp .divide else pure false
 if isSlash && (<- runsBefore 8) then report "posOnlyIncompat" first
 let name <- takeName?
 if name.isNone && (cat == .argsList || isSlash) then return <- make first (.par {cat})
 if name.isNone then
  if (<- peekCat) == .openParen then
   let start <- advance
   if <- skipUntil [.closeParen] then discard advance
   report "sublistParsIncompat" start
  else reportNext "wantParName"
 let label <- name.mapM makeName
 let hint <- if <- skipWhen allowHints .colon then some <$> readHint read (cat == .argsList) else pure none
 let dfltVal <- if <- skipOp .assign then some <$> read (.test false) else pure none
 if let some value := dfltVal then
  if cat != .simple then report "dfltValBarred" value
 makeOver first (label.toList ++ hint.toList ++ dfltVal.toList) (.par {cat, name := label, hint, dfltVal})

structure ParameterList where
 pars : Array Node := #[]
 names : Strings := []
 (sawDflt reportedNonDflt sawKwOnly sawPosOnly sawKwOnlyPar sawArgs : Bool := false)
 (sawKwargs : Bool := false)

namespace ParameterList
variable (list : ParameterList) (par : Node) (parts : ParParts Node)
def checkName : Parse ParameterList := do
 if let some name := parts.name then
  if list.names.contains name.nameVal then
   report "dupPar" name [name.nameVal]
   pure list
  else pure {list with names := name.nameVal :: list.names}
 else
  if parts.cat == .simple && list.pars.isEmpty then report "posOnlyPar1" par
  pure list

def checkSimple : Parse ParameterList := do
 if parts.name.isNone then
  if list.sawPosOnly then report "dupPosOnly" par
  else if list.sawKwOnly then report "posOnlyAfterKwOnly" par
  else if list.sawArgs then report "posOnlyAfterArgs" par
  return {list with sawPosOnly := true}
 let list := if list.sawKwOnly then {list with sawKwOnlyPar := true} else list
 if parts.dfltVal.isSome then return {list with sawDflt := true}
 if list.sawDflt && !list.sawKwOnly && !list.sawArgs && !list.reportedNonDflt then
  report "nonDfltAfterDflt" par
  return {list with reportedNonDflt := true}
 pure list

def checkArgs : Parse ParameterList := do
 if parts.name.isNone then
  if list.sawKwOnly then report "dupKwOnly" par
  else if list.sawArgs then report "kwOnlyAfterArgs" par
  return {list with sawKwOnly := true}
 if list.sawKwOnly || list.sawArgs then report "dupArgsPar" par
 pure {list with sawArgs := true}

def checkKwargs : Parse ParameterList := do
 if parts.cat == .kwargsDict then
  if list.sawKwargs then report "dupKwargsPar" par
  if list.sawKwOnly && !list.sawKwOnlyPar then report "kwParGone" par
  return {list with sawKwargs := true}
 if list.sawKwargs then report "parAfterKwargs" par
 pure list

def add : Parse ParameterList := do
 let list <- list.checkName par parts
 let list <- if parts.cat == .simple then list.checkSimple par parts else pure list
 let list := {list with pars := list.pars.push par}
 let list <- if parts.cat == .argsList then list.checkArgs par parts else pure list
 list.checkKwargs par parts

end ParameterList

def parParts := if let .par parts := node.kind then parts else {cat := .simple}

def readPars (terminator : TokenCat) (allowHints : Bool) : Parse Nodes := do
 let list <- loop ({} : ParameterList) fun list => do
  if (<- peekCat) == terminator then return .done list
  let par <- readPar read allowHints
  let parts := parParts par
  let list <- list.add par parts
  let hitComma <- skip .comma
  let list <-
   if allowHints && parts.hint.isNone then
    let some cmt <- varTyCmt? read | pure list
    let par := {par.extendOver cmt with kind := .par {parts with hintCmt := cmt}}
    pure {list with pars := list.pars.pop.push par}
   else pure list
  return if hitComma then .again list else .done list
 if let some last := list.pars.back? then
  let parts := parParts last
  if parts.cat == .argsList && parts.name.isNone then report "wantKwPar" last
 pure list.pars.toList

def readLambda (conditional : Bool) : Parse Node := do
 let start <- advance
 let pars <- readPars read .colon false
 if !(<- skip .colon) then reportNext "wantColon"
 let body <-
  if conditional then read (.test false)
  else do if (<- peekKw?) == some .lambdaKw then read (.lambda false) else read .orTest
 makeOver start [body] (.lambda pars body)

/-! Yields. -/

def checkStarTup (minor : Int := 8) : Parse Unit := do
 if let .tup items false := node.kind then
  if <- isBefore minor then if let some item := items.find? isUnpack then report "unpTuplesBad" item

def readYield : Parse Node := do
 let start <- advance
 let next <- peek
 if <- skipKw .fromKw then
  if <- isBefore 3 then report "yieldFromBad" next
  let expr <- read (.test false)
  return <- makeOver start [expr] (.yieldFrom expr)
 if <- startsNoExpr then return <- make start (.yieldExpr none)
 let expr <- testOrStarExpr read false true .missingExpr "wantYieldExpr"
 checkStarTup expr
 makeOver start [expr] (.yieldExpr expr)

def yieldOrTests (walrus : Bool) (msg : String) : Parse Node := do
 if (<- peekKw?) == some .yieldKw then read .yieldExpr else testOrStarExpr read walrus true .missingExpr msg

/-! Comprehensions. -/

def comprFor? : Parse Node? := do
 let isAsync := (<- peekKw?) == some .asyncKw
 if !(<- peek (if isAsync then 1 else 0)).isKw .forKw then return none
 let asyncToken <- if isAsync then some <$> advance else pure none
 let forToken <- advance
 let tgt <- tgtExpr read forToken
 let iterable <-
  if <- skipKw .inKw then within ({· with walrusAllowed := false}) (read .orTest) else recover .missingIn "wantIn"
 some <$> makeOver (asyncToken.getD forToken) [tgt, iterable] (.comprFor asyncToken tgt iterable)

def comprIf? : Parse Node? := do
 if (<- peekKw?) != some .ifKw then return none
 let start <- advance
 let test <- if (<- peekKw?) == some .lambdaKw then read (.lambda true) else read (.walrus false)
 some <$> makeOver start [test] (.comprIf test)

def compr? (tgt : Node) (isGen : Bool) : Parse Node? := do
 let some first <- comprFor? read | pure none
 match tgt.kind with
 | .unpack .. => report "unpInCompr" tgt
 | .dictExpandEnt .. => report "dictExpandInCompr" tgt
 | _ => pure ()
 let forIfs <- loop #[first] fun forIfs => do
  if let some node <- comprFor? read then return .again (forIfs.push node)
  else if let some node <- comprIf? read then return .again (forIfs.push node) else return .done forIfs
 some <$> makeOver tgt forIfs.back?.toList (.compr tgt forIfs.toList isGen false)

/-! Arguments and subscripts. -/

def argCat : Parse ArgCat := do
 if <- skipOp .multiply then return .unpList
 if <- skipOp .power then return .unpDict
 pure .simple

def argName? : Parse Node? := do
 if let .name _ token := node.kind then some <$> makeName token
 else
  report "wantParName" node
  pure none

def readArg : Parse Node := do
 let first <- peek
 let cat <- argCat
 let value <- read (.test true)
 let (label, value) <-
  if cat != .simple then pure (none, value)
  else do
   if <- skipOp .assign then
    let rhs <- read (.test false)
    pure (<- argName? value, rhs)
   else pure (none, (<- compr? read value true).getD value)
 makeOver first [value] (.arg cat label value)

structure ArgList where
 args : Array Node := #[]
 (trailComma sawKw sawUnpDict : Bool := false)

def readArgs : Parse ArgList :=
 loop {} fun list => do
  if [.closeParen, .newLine, .eof].contains (<- peekCat) then return .done list
  let arg <- readArg read
  let (cat, label) := if let .arg cat label _ := arg.kind then (cat, label) else (.simple, none)
  if label.isNone then
   if list.sawKw && cat == .simple then report "posArgAfterKwArg" arg
   if list.sawUnpDict && cat != .unpDict then report "posArgAfterUnpDictArg" arg
  let list :=
   {args := list.args.push arg, trailComma := false, sawKw := list.sawKw || label.isSome
    sawUnpDict := list.sawUnpDict || cat == .unpDict}
  if <- skip .comma then return .again {list with trailComma := true}
  return .done list

structure SliceParts where
 parts : Array Node? := #[]
 sawColon := false

def readSlice : Parse Node := do
 let first <- peek
 let walrus := !(<- runsBefore 10)
 let slice <- loop ({} : SliceParts) fun slice => do
  let cat <- peekCat
  if cat matches .closeBracket | .comma then return .done slice
  let part <- if cat == .colon then pure none else some <$> read (.test walrus)
  let slice := {slice with parts := slice.parts.push part}
  if 3 <= slice.parts.size then return .done slice
  if <- skip .colon then return .again {slice with sawColon := true}
  return .done slice
 let part (idx : Nat) : Node? := (slice.parts[idx]?).join
 if slice.sawColon then
  makeOver first ((part 2).or ((part 1).or (part 0))).toList (.slice (part 0) (part 1) (part 2))
 else if let some node := part 0 then pure node else makeError (<- peek).span .missingIdxOrSlice

structure SubscriptList where
 items : Array Node := #[]
 (trailComma sawKw : Bool := false)

def readSubscript (list : SubscriptList) : Parse SubscriptList := do
 let first <- peek
 let cat <- argCat
 let hit <- (rewind · Option.isSome) do
  let value <- readSlice read
  if cat != .simple then return some (none, value)
  if <- skipOp .assign then
   let rhs <- readSlice read
   if let .name _ token := value.kind then return some (some token, rhs)
   report "wantParName" value
   return some (none, rhs)
  if (value.kind matches .name ..) && (<- peekOp?) == some .walrus then return none
  return some (none, value)
 let (label, value) <- if let some parts := hit then pure parts
  else
   let value <- read (.test true)
   if <- runsBefore 10 then report "putExprInIdx" value
   pure (none, value)
 let label <- label.mapM makeName
 let item <- makeOver first [value] (.arg cat label value)
 if label.isNone && list.sawKw && cat == .simple then report "posArgAfterKwArg" item
 if let some label := label then report "kwIdxBad" label
 if cat == .unpList && !(<- around).inQuotedText && (<- runsBefore 11) then report "unpIdxBad" item
 if cat == .unpDict then report "unpDictIdxBad" item
 pure {list with items := list.items.push item, sawKw := list.sawKw || label.isSome}

def readSubscripts : Parse SubscriptList := do
 let list <- loop ({} : SubscriptList) fun list => do
  if (<- peekCat) != .colon && (<- startsNoExpr) then return .done list
  let list <- readSubscript read list
  if <- skip .comma then return .again {list with trailComma := true}
  return .done {list with trailComma := false}
 if !list.items.isEmpty then return list
 let error <- recover .missingIdxOrSlice "wantSliceIdx" none none [.closeBracket]
 let item <- makeOver (<- peek) [error] (.arg .simple none error)
 pure {list with items := #[item]}

/-! Strings. -/

def reportStrErrs (span : Span) (flags : StrFlags) (nonAsciiInBytes : Bool) : Parse Unit := do
 if flags.unclosed then report "strOpen" span
 if nonAsciiInBytes then report "strNonAsciiBytes" span
 if flags.format then
  if <- isBefore 6 then report "fStrBad" span
  if flags.bytes then report "fStrBytes" span
  if flags.unicode then report "fStrUni" span
  if flags.tmpl then report "fStrTmpl" span
 if flags.tmpl then
  if <- isBefore 14 then report "tStrBad" span
  if flags.bytes then report "tStrBytes" span
  if flags.unicode then report "tStrUni" span

def makeStr (token : Token) : Parse Node := do
 let (flags, escaped) := if let .string flags escaped _ := token.kind then (flags, escaped) else ({}, #[])
 let unescaped := unescape escaped flags
 reportStrErrs token flags unescaped.nonAsciiInBytes
 make token (.string token unescaped.value)

structure FieldList where
 middle : Array Token := #[]
 fields : Array Node := #[]
 isWhole := true

def fieldHead : Parse (Node × Bool) := do
 discard advance
 let expr <- yieldOrTests read true "wantExpr"
 if expr.isError then return (expr, false)
 let next <- peek
 if next.isOp .assign then
  if <- isBefore 8 then report "fStrDebugBad" next
  discard advance
 if <- skip .exclamationMark then
  let next <- peek
  if next.cat == .ident then discard advance
  else report "fStrWantConv" next
 pure (expr, true)

def replField : Nat -> Nat -> FieldList -> Parse FieldList
 | 0, _, list => pure {list with isWhole := false}
 | fuel + 1, nesting, list => do
  let (expr, goesOn) <- fieldHead read
  let list := {list with fields := list.fields.push expr}
  if !goesOn then return {list with isWhole := false}
  let list <-
   if <- skip .colon then
    loop list fun list => do
     let next <- peek
     match next.kind with
     | .fStrMiddle .. =>
      discard advance
      return .again list
     | .openCurlyBrace =>
      if nesting = 2 then report "fStrInFmt" next
      return .again (<- replField fuel (nesting + 1) list)
     | _ => return .done list
   else pure list
  if <- skip .closeCurlyBrace then return {list with isWhole := true}
  reportNext "fStrOpen"
  pure {list with isWhole := false}

structure FormatStrParts where
 list : FieldList := {}
 endToken : Token? := none

def readFormatStr : Parse Node := do
 let start <- advance
 let rounds := (<- get).src.tokens.size
 let parts <- loop ({} : FormatStrParts) fun parts => do
  let next <- peek
  match next.kind with
  | .fStrEnd flags =>
   if flags.unclosed then report "strOpen" start
   discard advance
   return .done {parts with endToken := next}
  | .fStrMiddle .. =>
   discard advance
   return .again {parts with list := {parts.list with middle := parts.list.middle.push next}}
  | .openCurlyBrace =>
   let list <- replField read rounds 0 parts.list
   let parts := {parts with list}
   if list.isWhole then return .again parts
   if <- skipUntil [.fStrEnd, .newLine] then discard (skip .fStrEnd)
   return .done parts
  | _ =>
   if next.cat != .newLine then if <- skipUntil [.fStrEnd] then discard advance
   report (if next.cat == .closeCurlyBrace then "fStrBrace" else "strOpen") next
   return .done parts
 if let .fStrStart flags _ := start.kind then reportStrErrs start.span flags false
 let fields := parts.list.fields.toList
 let span := start.span.extendMany (fields.map (·.span))
 make (parts.endToken.elim span (span.extend ·.span)) (.formatStr start parts.list.middle.toList fields [])

def quotedHint? (node : Node) (token : Token) : Parse Node? := do
 let .string flags escaped prefixLen := token.kind | pure none
 let unescaped := unescape escaped flags false
 let opening := prefixLen + flags.quoteLen
 if unescaped.value.size + opening + flags.quoteLen != token.span.length then
  if (<- around).inQuotedText then report "annotStrEsc" node
  return none
 if flags.raw || flags.bytes || flags.format || flags.tmpl then return none
 let depth := if flags.triplicate then 1 else 0
 let some (hint, diags) <- nested (token.start + opening) unescaped.value.size depth (readHint read) | pure none
 if !diags.isEmpty && !(<- opts).reportQuoted then return none
 diags.forM (report ·.msg node)
 pure hint

def readStrings : Parse Node := do
 let strings <- loop (#[] : Array Node) fun strings => do
  match (<- peek).kind with
  | .string .. => return .again (strings.push (<- makeStr (<- advance)))
  | .fStrStart .. => return .again (strings.push (<- readFormatStr read))
  | _ => return .done strings
 let strings := strings.toList
 let start := (strings.head?.map (·.span)).getD default
 let node <- makeOver start strings.getLast?.toList (.strList strings none false)
 if !(<- around).inHint then return node
 match strings with
 | [only] => match only.kind with
  | .string token _ =>
   let hint <- quotedHint? read node token
   pure {node with kind := .strList strings hint false}
  | _ =>
   if (<- around).inQuotedText then report "annotFmtStr" node
   pure node
 | _ =>
  if (<- around).inQuotedText then report "annotSpansStrs" node
  pure node

/-! Displays. -/

def testsWithCompr (isGen : Bool) : Parse NodeList :=
 itemList do
  let expr <- read (.testOrStar true)
  let some node <- compr? read expr isGen | pure (expr, false)
  pure (node, true)

def readParens : Parse Node := do
 let start <- advance
 if (<- peekKw?) == some .yieldKw then
  let expr <- read .yieldExpr
  if (<- peekCat) == .closeParen then return expr.extendTo (<- advance)
  return <- recover .missingTupCloseParen "wantCloseParen" start expr
 let nodes <- testsWithCompr read true
 let node := (<- tupOrItem nodes true).extendTo start
 if (<- peekCat) == .closeParen then return node.extendTo (<- advance)
 recover .missingTupCloseParen "wantCloseParen" start (nodes.error.getD node)

def readListDisplay : Parse Node := do
 let start <- advance
 let nodes <- testsWithCompr read false
 let close <- peek
 let makeList := makeOver (start.span.extend close.span) nodes.list.getLast?.toList (.list nodes.list)
 if <- skip .closeBracket then makeList
 else
  let child <- if let some error := nodes.error then pure error else makeList
  recover .missingListCloseBracket "wantCloseBracket" start child

structure BraceEnts where
 (ents items : Array Node := #[])
 (isDict isSet sawCompr : Bool := false)
 isFirst := true
 trailComma : Token? := none

namespace BraceEnts
variable (ents : BraceEnts) (read : Reader) (ent : Node)
def withCompr (msg : String) (place : Span?) : Parse (Node × BraceEnts) := do
 match <- compr? read ent false with
 | none => pure (ent, ents)
 | some node =>
  if !ents.isFirst then report msg (place.getD node)
  pure (node, {ents with sawCompr := true})

def addEnt := {ents with ents := ents.ents.push ent, isDict := true}

def addUnp (star : Token) : Parse BraceEnts := do
 let expr <- read (.starred false)
 if ents.isSet then
  report "unpInSet" expr
  return ents
 let ent <- make (expr.span.extend star) (.dictExpandEnt expr)
 let (ent, ents) <- ents.withCompr read ent "comprInDict" expr
 return ents.addEnt ent

def addPair (key value : Node) : Parse BraceEnts := do
 if isUnpack key then report "unpInDict" key
 if ents.isSet then
  report "keyValInSet" value
  return ents
 let ent <- makeOver key [value] (.dictKeyEnt key value)
 let (ent, ents) <- ents.withCompr read ent "comprInDict" none
 return ents.addEnt ent

def addItem (item : Node) : Parse BraceEnts := do
 if ents.isDict then
  let missing <- makeError (<- peek) .missingDictVal
  let ent <- makeOver item [missing] (.dictKeyEnt item missing)
  report "dictKeyValPairs" item
  return ents.addEnt ent
 let (item, ents) <- ents.withCompr read item "comprInSet" none
 pure {ents with items := ents.items.push item, isSet := true}

def addNext : Parse BraceEnts := do
 let star <- peek
 if <- skipOp .power then return <- ents.addUnp read star
 let key <- read (.testOrStar true)
 let value <- if <- skip .colon then some <$> read (.test false) else pure none
 if let .walrus _ token _ false := key.kind then
  if value.isSome || (<- isBefore 10) then report "walrusBarred" token
 let some value := value | ents.addItem read key
 ents.addPair read key value

end BraceEnts

def readBraces : Parse Node := do
 let start <- advance
 let ents <- loop ({} : BraceEnts) fun ents => do
  if (<- peekCat) == .closeCurlyBrace then return .done ents
  let ents <- {ents with trailComma := none}.addNext read
  if ents.sawCompr || (<- peekCat) != .comma then return .done ents
  let comma <- advance
  return .again {ents with trailComma := comma, isFirst := false}
 let close <- peek
 let isClosed <- skip .closeCurlyBrace
 if !isClosed then report "wantCloseBrace" start
 let closing := if isClosed then [close.span] else []
 let last nodes := nodes.back?.toList.map (·.span)
 if ents.isSet then make (start.span.extendMany (closing ++ last ents.items)) (.set ents.items.toList)
 else
  let comma := ents.trailComma.toList.map (·.span)
  make (start.span.extendMany (comma ++ closing ++ last ents.ents)) (.dict ents.ents.toList ents.trailComma)

/-! Atoms and what follows them. -/

def parens :=
 let kind := match node.kind with
  | .unary token op expr _ => .unary token op expr true
  | .await token expr _ => .await token expr true
  | .binary lhs token op rhs _ => .binary lhs token op rhs true
  | .strList strings hint _ => .strList strings hint true
  | .compr expr forIfs isGen _ => .compr expr forIfs isGen true
  | .walrus tgt token rhs _ => .walrus tgt token rhs true
  | kind => kind
 {node with kind}

def readAtom : Parse Node := do
 let next <- peek
 match next.kind with
 | .ellipsis => make (<- advance) .ellipsis
 | .number value imag => make (<- advance) (.number value imag)
 | .ident _ => makeName (<- advance)
 | .string .. | .fStrStart .. => readStrings read
 | .backtick =>
  discard advance
  report "backticksBarred" next
  let expr <- if <- startsNoExpr then recover .missingExpr "wantExpr" else listOrError (<- plainList (read (.test false)))
  discard (skip .backtick)
  pure expr
 | .openParen => parens <$> readParens read
 | .openBracket => readListDisplay read
 | .openCurlyBrace => readBraces read
 | .kw .falseKw => make (<- advance) (.const .falseKw)
 | .kw .trueKw => make (<- advance) (.const .trueKw)
 | .kw .debugKw => make (<- advance) (.const .debugKw)
 | .kw .noneKw => make (<- advance) (.const .noneKw)
 | .kw _ =>
  let some token <- takeName? | recover .missingExpr "wantExpr"
  makeName token
 | _ => recover .missingExpr "wantExpr"

def isTypingName (name : String) := do
 let facts := (<- get).facts
 match node.kind with
 | .name value _ => return facts.typingNames.lookup value == name
 | .memAccess lhs mem =>
  let some base := lhs.nameVal? | pure false
  return mem.nameVal == name && facts.typingMods.contains base
 | _ => pure false

inductive Trailer where
 | none | stop (node : Node) | next (node : Node) | broken (node : Node)

variable (walrus : Bool) (lhs : Node) (start : Token)
def callTrailer : Parse Trailer := withHint false do
 let list <- readArgs read
 let args := list.args.toList
 let call <- makeOver lhs args.getLast?.toList (.call lhs args list.trailComma)
 if 1 < args.length || list.trailComma then
  args.forM fun arg => do
   if let .arg _ _ value := arg.kind then if let .compr _ _ _ false := value.kind then report "genNotParen" value
 let next <- peek
 let isClosed <- skip .closeParen
 let call <-
  if isClosed then pure (call.extendTo next)
  else
   report "wantCloseParen" start
   discard (skipUntil [.newLine])
   pure (call.extendTo (<- peek))
 let node <- limitDepth [lhs] call
 return if isClosed then .next node else .stop node

def idxTrailer : Parse Trailer := do
 let isPlain := (<- isTypingName lhs "Literal") || (<- isTypingName lhs "Annotated")
 let list <- withHint (!isPlain && (<- around).inHint) (readSubscripts read)
 let close <- peek
 let node <- make (lhs.span.extend close) (.idx lhs list.items.toList list.trailComma)
 if !(<- skip .closeBracket) then discard (recover .missingIdxCloseBracket "wantCloseBracket" start node)
 return .next (<- limitDepth [lhs] node)

def memTrailer : Parse Trailer := do
 if let some token <- takeName? then
  let mem <- makeName token
  let node <- makeOver lhs [mem] (.memAccess lhs mem)
  return .next (<- limitDepth [lhs] node)
 else return .broken (<- recover .missingMemAccessName "wantMemName" start lhs [.kw])

def readTrailer (lhs : Node) : Parse Trailer := do
 let start <- peek
 if <- skip .openParen then callTrailer read lhs start
 else if <- skip .openBracket then idxTrailer read lhs start
 else if <- skip .dot then memTrailer lhs start
 else pure .none

def readPrimary : Parse Node := do
 let next <- peek
 let awaitToken <- if next.isKw .awaitKw then some <$> advance else pure none
 if awaitToken.isSome && (<- isBefore 5) then report "awaitIncompat" next
 let atom <- readAtom read
 if atom.isError then return atom
 let (node, isBroken) <- loop (atom, false) fun (node, _) => do
  match <- readTrailer read node with
  | .none | .stop node => return .done (node, false)
  | .next node => return .again (node, false)
  | .broken node => return .done (node, true)
 match awaitToken, isBroken with
 | some token, false => makeOver token [node] (.await token node false)
 | _, _ => pure node

/-! Operators. -/

variable (token : Token)
def makeUnary (op : Op) (expr : Node) := do
 let node <- makeOver token [expr] (.unary token op expr false)
 limitDepth [expr] node

def makeBinary (op : Op) (rhs : Node) := do
 let node <- makeOver lhs [rhs] (.binary lhs token op rhs false)
 limitDepth [lhs, rhs] node

def lhsAssociative (first operand : Parse Node) (takeOp : Parse (Option Op))
  (stopsAtError : Bool := false) : Parse Node := do
 let lhs <- first
 if lhs.isError then return lhs
 loop lhs fun lhs => do
  let token <- peek
  let some op <- takeOp | return .done lhs
  let rhs <- operand
  if stopsAtError && rhs.isError then return .done rhs
  return .again (<- makeBinary lhs token op rhs)

def takeOp (ops : List Op) : Parse (Option Op) := do
 let some op <- peekOp? | pure none
 if ops.contains op then
  discard advance
  return op
 pure none

def takeKwOp (kw : Kw) (op : Op) : Parse (Option Op) := do
 if <- skipKw kw then return op
 pure none

def readFactor : Parse Node := do
 let next <- peek
 if let some op <- takeOp [.add, .subtract, .bitwiseInvert] then makeUnary next op (<- read .factor)
 else
  let lhs <- readPrimary read
  if lhs.isError then return lhs
  let token <- peek
  if <- skipOp .power then makeBinary lhs token .power (<- read .factor) else pure lhs

def readLevel (operand : Parse Node) (ops : List Op) (stopsAtError : Bool := false) :=
 lhsAssociative operand operand (takeOp ops) stopsAtError

def readTerm := readLevel (readFactor read) [.multiply, .matrixMultiply, .divide, .mod, .floorDivide]
def readSum := readLevel (readTerm read) [.add, .subtract] true
def readShift := readLevel (readSum read) [.leftShift, .rightShift]
def readBitwiseAnd := readLevel (readShift read) [.bitwiseAnd]
def readBitwiseXor := readLevel (readBitwiseAnd read) [.bitwiseXor]
def readBitwiseOr := readLevel (readBitwiseXor read) [.bitwiseOr]

def takeCompare : Parse (Option Op) := do
 let next <- peek
 match next.kind with
 | .op op =>
  if !op.isComparison then return none
  if op == .lessOrGreaterThan then report "opLessOrGreaterOld" next
  discard advance
  return some (if op == .lessOrGreaterThan then .notEquals else op)
 | .kw .inKw =>
  discard advance
  return some .isIn
 | .kw .isKw =>
  discard advance
  return some (if <- skipKw .notKw then .isNot else .is)
 | .kw .notKw =>
  if !(<- peek 1).isKw .inKw then return none
  discard advance
  discard advance
  return some .notIn
 | _ => pure none

def readCompare := lhsAssociative (readBitwiseOr read) (read .comparison) takeCompare

def readNotTest := do
 let token <- peek
 if <- skipKw .notKw then makeUnary token .not (<- read .notTest) else readCompare read

def readAndTest := lhsAssociative (readNotTest read) (readNotTest read) (takeKwOp .andKw .and)
def readOrTest := lhsAssociative (readAndTest read) (readAndTest read) (takeKwOp .orKw .or)

def readWalrus (allowed : Bool) : Parse Node := do
 let lhs <- readOrTest read
 if !(lhs.kind matches .name ..) then return lhs
 let token <- peek
 if !(<- skipOp .walrus) then return lhs
 if !allowed || !(<- around).walrusAllowed then report "walrusBarred" token
 if <- isBefore 8 then report "walrusBad" token
 let rhs <- read (.test false)
 makeOver lhs [rhs] (.walrus lhs token rhs false)

def readTest : Parse Node := do
 if (<- peekKw?) == some .lambdaKw then return <- readLambda read true
 let ifExpr <- readWalrus read walrus
 if ifExpr.isError then return ifExpr
 if !(<- skipKw .ifKw) then return ifExpr
 let test <- read .orTest
 if test.isError then return test
 let elseExpr <- if <- skipKw .elseKw then read (.test true) else recover .missingElse "wantElse"
 makeOver ifExpr [elseExpr] (.ternary ifExpr test elseExpr)

def readStarred (unpack : Bool) := do
 let start <- peek
 let isUnp <- if unpack then skipOp .multiply else pure false
 let expr <- readBitwiseOr read
 if isUnp then makeOver start [expr] (.unpack start expr) else pure expr

def readTestOrStar : Parse Node := do
 if (<- peekOp?) == some .multiply then readStarred read true else readTest read walrus

/-! The knot. -/

def readPhrase : Phrase -> Parse Node
 | .test walrus => readTest read walrus
 | .testOrStar walrus => readTestOrStar read walrus
 | .starred unpack => readStarred read unpack
 | .walrus allowed => readWalrus read allowed
 | .lambda conditional => readLambda read conditional
 | .yieldExpr => readYield read
 | .orTest => readOrTest read
 | .notTest => readNotTest read
 | .comparison => readCompare read
 | .sum => readSum read
 | .factor => readFactor read
 | .atom => readAtom read

def readIn : Nat -> Phrase -> Parse Node
 | 0, _ => do makeError (<- peek) .maxDepthExceeded
 | bound + 1, phrase => delay fun _ => readPhrase (readIn bound) phrase

def expression (phrase : Phrase) := do readIn ((<- get).src.text.size + 16) phrase

end TypeChecker.Parser
