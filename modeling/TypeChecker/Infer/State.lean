import TypeChecker.Binding.Module
import TypeChecker.Types.Signature

/-! The state of evaluating types: the world of sources and scopes, what has been found out about them so far,
and the work in progress. -/

namespace TypeChecker
open Std (HashMap HashSet)

/-! How expressions are evaluated. -/

structure EvalFlags where
 (dotsToAny noSpec fwdRefs strLitAsTy noFinal noParSpec : Bool := false)
 (noTyVarTup instaTy tyExpr allowMissingTyArgs allowGeneric : Bool := false)
 (noTyVarWithScopeId allowUnscopedVar bindsTyVars : Bool := false)
 (sameVariance varTyAnnot allowDots noClsVar noNakedGeneric : Bool := false)
 (notParsed allowReq allowReadOnly allowUnpTup allowUnpTdict : Bool := false)
 (parsesStrLit keepSpec onlyTyForms allowConcat : Bool := false)
 (stripTupLits instArg tyFormArg clsTyVarsOnly : Bool := false)

namespace EvalFlags

def base : EvalFlags := {noSpec := true}

def instDflts : EvalFlags :=
 {allowMissingTyArgs := true, strLitAsTy := true, noParSpec := true
  noTyVarTup := true, noFinal := true, noSpec := true, instArg := true}

end EvalFlags

structure ExpectOpts where
 (allowFinal allowReq allowReadOnly allowUnpTup allowUnpTdict : Bool := false)
 (allowParSpec allowClsVar varTyAnnot bindsTyVars : Bool := false)
 (allowUnscoped clsTyVarsOnly parsesStrLit notParsed : Bool := false)
 (onlyTyForms tyFormArg fwdRefs tyExpr dotsToAny : Bool := false)
 (allowDots : Bool := false)

structure AssignFlags where
 (invar contra skipRecursiveCheck argFirstPass ovlOverlap : Bool := false)
 (partialOverlap skipRetCheck retainLits skipSelfClsTyCheck populateWant : Bool := false)
 (skipPopulateUnk allowUnspecifiedTyArgs allowInstForms skipSelfClsParCheck : Bool := false)
 (allowProtoClsSrc noExtraKwargs : Bool := false)
 deriving DecidableEq

structure MemFlags where
 (skipOrigCls skipBaseClasses skipObjBase skipTyBase skipInstMems : Bool := false)
 (skipClsMems declOnly noClsVarWrites ctorAsClsMeth : Bool := false)
 (skipOverride disallowGenericInstVars tyExpr skipTdictEnts : Bool := false)

/-! Results. -/

inductive AccessMeth where
 | get | set | del
 deriving DecidableEq

structure AccessDepr where
 isProp : Bool
 meth : AccessMeth
 msg : String

structure MagicDepr where
 (clsName methName msg : String)

structure Typed where
 ty : Ty
 (draft tyErrs : Bool := false)
 (bindToSelf unpTy : Ty? := none)
 tyList : Option (List Typed) := none
 node : Node? := none
 (inlinedTdict clsTy : Ty? := none)
 isEmptyTup := false
 wantDiag : Adden? := none
 isAsymAccessor := false
 narrowedForSet : Ty? := none
 (isReq isNotReq isReadOnly : Bool := false)
 ovlsUsed : Tys := []
 accessDepr : Option AccessDepr := none
 magicDepr : Option MagicDepr := none
 deriving Inhabited

abbrev Typed? := Option Typed

namespace Typed

def ofTy (ty : Ty) : Typed := {ty}
def unk : Typed := {ty := .unk}

end Typed

instance : Coe Ty Typed := ⟨.ofTy⟩

structure Want where
 ty : Ty
 draft := false
 retOverride : Ty? := none

abbrev Want? := Option Want
def Want.make (ty : Ty?) (draft : Bool := false) : Want? := ty.map ({ty := ·, draft})

structure Usage where
 meth : AccessMeth := .get
 setTy : Typed? := none
 setWantDiag : Adden? := none

structure ClsTyRes where
 (clsTy decorated : Ty)

structure FnTyRes where
 (fnTy decorated : Ty)

structure DeclTy where
 ty : Ty? := none
 (isTyAlias exceedsLimit : Bool := false)
 deriving Inhabited

structure EffTy where
 ty : Ty
 (draft includesVar includesSpecul isRecursive : Bool := false)
 attempts := 0
 deriving Inhabited

structure ClsMem where
 sym : SymId := 0
 made : Ty? := none
 isInstMem := false
 isClsMem := true
 (isSlotsMem isReadOnly isTyDecl : Bool := false)
 (clsTy unspecCls : Ty)

structure Arg where
 cat : ArgCat := .simple
 (node name : Node? := none)
 res : Typed? := none
 val : Node? := none
 enforceIterable := false

def Arg.ofNode (node : Node) : Arg := if let .arg cat name val := node.kind then {cat, name, val, node}
 else {val := node, node}

structure ArgMatch where
 cat : ParCat := .simple
 parTy : Ty
 requiresMatching := false
 arg : Arg
 isDflt := false
 argTy : Ty? := none
 site : Node
 parName : String? := none
 (isNameSynth mapsToVarArgs instPar : Bool := false)

structure ArgRes where
 isCompat : Bool
 argTy : Ty
 draft := false
 conds : List (Cond Ty) := []

structure CallRes where
 retTy : Ty? := none
 (draft argErrs : Bool := false)
 anyOrUnkArg : Ty? := none
 initSelfTy : Ty? := none
 ovlsUsed : Tys := []
 argResults : Option (List ArgRes) := none
 score := 0
 deriving Inhabited

structure CallSite where
 site : Node
 args : List ArgMatch

/-! Flow of types. -/

structure DraftSubty where
 ty : Ty
 (draft isPending : Bool)
 evaluations : Nat

inductive FlowEnt where
 | done (ty : Ty?)
 | incomplete (ty : Ty?) (subtys : Array DraftSubty) (epoch : Nat)

structure FlowCache where
 ents : HashMap FlowId FlowEnt := {}
 (pending closedGates : List FlowId := [])

structure FlowRes where
 ty : Ty? := none
 draft := false
 epoch : Nat? := none
 subtys : Option (Array DraftSubty) := none
 deriving Inhabited

/-! Work in progress. -/

structure CacheEnt where
 res : Typed
 epoch : Nat

inductive CacheSlot where
 | ty (cache node : Nat)
 | flow (cache : Nat) (node : FlowId)

structure SpeculCtx where
 root : Node
 undo : List CacheSlot := []
 dependentTy : Ty? := none
 allowDiags := false

structure SpeculEnt where
 res : Typed
 want : Ty?
 epoch : Nat
 users : List (Node × Ty)

structure SymResolution where
 sym : SymId
 decl : DeclId
 isValid := true
 partialTy : Ty? := none

structure RetCtx where
 fn : Node
 analyzer : Nat

structure MutedNode where
 node : Node
 msgs : Option (Array String)

structure Early where
 (objCls tyCls fnCls methCls unionTyCls noneTyCls tupCls : Ty? := none)
 (boolCls intCls strCls dictCls modTyCls tdictCls : Ty? := none)
 (tdictPrivCls awaitableCls mappingCls tmplCls supportsKeysAndGetItem : Ty? := none)

structure CallSiteRet where
 parTys : Tys
 retTy : Ty

structure ProtoEnt where
 src : Ty?
 flags : AssignFlags
 (preConstrs postConstrs : Constrs?)
 isCompat : Bool
 dest : Ty

structure FileOrigin where
 (isThirdParty isTyped isCell : Bool := false)
 chained : String? := none

structure Project where
 places : ImportPlaces := {tree := {}}
 texts : HashMap String String := {}
 usesLibraryCode := false
 allowed : Option Strings := none
 ver : Ver := .latest
 platform : String? := none
 rules : RuleSet := .ofMode .standard

structure World where
 project : Project := {}
 catalog : Univ := {}
 scopes : ScopeWorld := {}
 anc : Anc := {}
 mods : Array (Option BoundMod) := #[]
 blockOfPath : HashMap String Nat := {}
 origins : HashMap String FileOrigin := {}
 importsOf : HashMap String Strings := {}
 added : Strings := []
 imports : HashMap Nat ImportRes := {}
 nextNodeIds : HashMap Nat Nat := {}
 quoted : HashMap Nat Node := {}
 synth : HashMap SymId Ty := {}
 sinks : HashMap Nat DiagSink := {}
 accessed : HashSet SymId := {}
 accessedFrom : HashSet (Nat × SymId) := {}
 users : List Nat := []
 nextVarId := 1
 tys : HashMap Nat CacheEnt := {}
 localTys : Option (HashMap Nat CacheEnt) := none
 localCache := 0
 nextCache := 1
 epoch := 0
 effTys : HashMap (SymId × String) EffTy := {}
 guess : List SpeculCtx := []
 speculTys : HashMap Nat (List SpeculEnt) := {}
 dependentTys : List (Node × Ty) := []
 muted : List MutedNode := []
 resolutions : Array SymResolution := #[]
 retContexts : List RetCtx := []
 fnRecursion : HashMap Nat (List Nat?) := {}
 callSiteReturns : HashMap DeclId (List CallSiteRet) := {}
 retAttempts : HashMap DeclId Nat := {}
 sigs : List (List SigUse × Node) := []
 selfAssignments : List (Ty × Variance) := []
 deferredClasses : List (Ty × Nodes) := []
 uneven : HashSet Nat := {}
 enumMems : List (Nat × String) := []
 prefetched : Option Early := none
 protoStack : List (Ty × Ty) := []
 protoCache : HashMap (Nat × Nat) (List ProtoEnt) := {}
 analyzersOfNode : HashMap Nat (List (Typed? × Nat)) := {}
 analyzers : Array (HashMap String Nat) := #[]
 flowCaches : Array FlowCache := #[]
 flowEpoch := 1
 reach : HashMap (FlowId × Option FlowId) Reach := {}
 reachStack : List FlowId := []
 (noReturnCalls contextManagers : HashMap Nat Bool := {})
 (noReturnDepth managerDepth : Nat := 0)
 walked : Array Node := #[]
 /-- Whether a plain number was to be added to a big one, which ends a check. -/
 mixesNums := false

def World.forget (world : World) : World :=
 {project := world.project, catalog := world.catalog, scopes := world.scopes, anc := world.anc
  mods := world.mods, blockOfPath := world.blockOfPath, origins := world.origins
  importsOf := world.importsOf, added := world.added, imports := world.imports
  nextNodeIds := world.nextNodeIds, quoted := world.quoted, synth := world.synth
  sinks := world.sinks, accessed := world.accessed, accessedFrom := world.accessedFrom, nextVarId := world.nextVarId}

abbrev Eval := StateM World

/-- An evaluation for what it does alone. -/
abbrev Act := Eval Unit
abbrev Ask := Eval Bool

/-! Matching of types. It runs with constraints on type variables and, if they are wanted, with notes on why
types do not match. -/

structure Matching where
 constrs : Constrs? := none
 notes : Adden? := none
 level := 0

abbrev Match := StateT Matching Eval
abbrev Fits := Match Bool

namespace Match
variable {α : Type} (action : Match α) (name : String) (vals : List (Match String) := [])
@[inline] def plain := return (<- action.run {}).1

@[inline] def explained := do
 let (res, state) <- action.run {notes := some .empty}
 pure (res, state.notes.getD .empty)

@[inline] def constrained (constrs : Constrs) (action : Match α) := do
 let (res, state) <- action.run {constrs}
 pure (res, state.constrs.getD {})

@[inline] def constrainedExplained (constrs : Constrs?) (action : Match α) := do
 let (res, state) <- action.run {constrs, notes := some .empty}
 pure (res, state.constrs, state.notes.getD .empty)

def isExplaining : Fits := return (<- get).notes.isSome

@[inline] def noteMsg (msg : Match String) : Match Unit := do
 if (<- get).notes.isSome then
  let msg <- msg
  modify fun s => {s with notes := s.notes.map (·.addMsg msg)}

instance : Coe String (Match String) := ⟨pure⟩

def note := noteMsg do return say name (<- vals.mapM id)

def locate (span : Span) : Match Unit := modify fun s => {s with notes := s.notes.map (·.setSpan span)}
def attach (adden : Adden) : Match Unit := modify fun s => {s with notes := s.notes.map (·.addChild adden)}

@[inline] def apart : Match (α × Adden) := do
 let notes := (<- get).notes
 modify fun s => {s with notes := s.notes.map fun _ => .empty}
 let res <- action
 let own := (<- get).notes.getD .empty
 modify ({· with notes})
 pure (res, own)

@[inline] def below : Match α := do
 modify fun s => {s with level := s.level + 1}
 let (res, own) <- apart action
 modify fun s => {s with level := s.level - 1}
 attach own
 pure res

def noteBelow := below (note name vals)

@[inline] def quietly : Match α := do
 let notes := (<- get).notes
 modify ({· with notes := none})
 let res <- action
 modify ({· with notes})
 pure res

@[inline] def withConstrs (constrs : Constrs?) (action : Match α) : Match (α × Constrs?) := do
 let saved := (<- get).constrs
 modify ({· with constrs})
 let res <- action
 let hit := (<- get).constrs
 modify ({· with constrs := saved})
 pure (res, hit)

@[inline] def unconstrained := return (<- withConstrs none action).1

def onCopy (action : Fits) : Fits := do
 let saved := (<- get).constrs
 let fits <- action
 if !fits then modify ({· with constrs := saved})
 pure fits

def setConstrs (constrs : Constrs?) : Match Unit := modify ({· with constrs})
def constrs : Match Constrs? := return (<- get).constrs

end Match

structure PrintFlags where
 (expandAlias wrapUnion wrapCallable fullNames omitArgsIfUnk unkAsAny : Bool := false)
 (omitConds asCode : Bool := false)

structure FlowQuery where
 sym : SymId? := none
 tyAtStart : Typed? := none
 skipConds := false
 startNode : Node? := none

structure DecoFacts where
 flags : FnFlags := {}
 deprecated : String? := none
 deriving Inhabited

structure CallOpts where
 skipUnkCheck := false
 want : Want? := none

@[nospecialize] class Evals where
 tyOfExpr : Node -> EvalFlags -> Want? -> Eval Typed
 tyWant : Node -> ExpectOpts -> Eval Typed
 tyOfAnnot : Node -> ExpectOpts -> Eval Ty
 tyOfCls : Node -> Eval (Option ClsTyRes)
 tyOfFn : Node -> Eval (Option FnTyRes)
 undecorated : Node -> Eval Ty?
 tyOfTyAlias : Node -> Eval Ty
 tyOfTyPar : Node -> Eval Ty
 evalStmt : Node -> Act
 evalExpr : Node -> Act
 evalPar : Node -> Act
 evalMatch : Node -> Act
 evalCase : Node -> Act
 decoFacts : Node -> Bool -> Eval DecoFacts
 declTyOfSym : SymId -> Node? -> Eval DeclTy
 effTyOfSym : SymId -> Node? -> Bool -> Eval EffTy
 tyForDecl : Decl -> Eval DeclTy
 inferDecl : SymId -> DeclId -> Eval Ty?
 inferRet : Ty -> Option CallSite -> Eval Typed
 synthesizeCls : Ty -> Act
 inferVariance : Ty -> Act
 specCls : Ty -> Option (List Typed) -> EvalFlags -> Node -> Eval Typed
 loadMod : String -> Eval Nat?
 resolveMod : Node -> Strings -> Eval String?
 flowTy : Node -> FlowQuery -> Eval FlowRes
 flowReach : FlowId -> Option FlowId -> Bool -> Eval Reach
 afterReach : Node -> Eval Reach
 printTy : PrintFlags -> Ty -> Eval String
 assign : Ty -> Ty -> AssignFlags -> Nat -> Fits
 boundMem : Node? -> Ty -> String -> Usage -> MemFlags -> Ty? -> Nat -> Match Typed?
 checkCall : Node -> List Arg -> Typed -> Constrs? -> CallOpts -> Nat -> Eval (CallRes × Constrs?)
 iterated : Typed -> Bool -> Node -> Bool -> Eval Typed?
 magicCall : Ty -> String -> List Typed -> Node -> Want? -> Eval Typed?
 ctorFn : Ty -> Ty? -> Nat -> Eval Ty?
 assignToExpr : Node -> Typed -> Node -> Bool -> Bool -> Act
 deriving Inhabited

end TypeChecker
