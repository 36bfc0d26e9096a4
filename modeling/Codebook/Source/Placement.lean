import Codebook.Source.Capture
import Codebook.Source.Suspend
import Codebook.Source.Symbols

/-!
# What may stand where

A file that follows the grammar may still have a statement or an expression in the wrong place: a
`return` outside a function, a starred value by itself, one keyword twice. `admissible` says that a
file has none of these faults, and none in its names; only then can it be run.

Hints that are kept as text, and hints of variables in a function, are not run. Of the rules only
those on names, `yield` and `await` hold in them.
-/

namespace Codebook.Source

/-! ## Places -/

/-- The innermost body around a place. -/
inductive Body
  | module
  | classBody
  | function
  | asyncFunction
  | lambda
  | comprehension
  deriving DecidableEq, Repr

/-- What surrounds a statement or an expression: the body, whether a comprehension runs over it,
whether it is a hint kept as text, whether it is run, whether a loop can be left or continued from
here and the function left, whether the function gives a value, how many blocks are open, and whether
hints are kept as text in this file. -/
structure Place where
  body : Body
  inIterable : Bool
  inHint : Bool
  isRun : Bool
  inLoop : Bool
  canReturn : Bool
  givesValue : Bool
  blocks : Nat
  keepsHints : Bool
  deriving DecidableEq, Repr

namespace Place

/-- The top of a body. -/
def top (body : Body) (keepsHints : Bool) : Place where
  body
  inIterable := false
  inHint := false
  isRun := true
  inLoop := false
  canReturn := body == .function || body == .asyncFunction
  givesValue := true
  blocks := 0
  keepsHints

/-- The top of a function; one that both waits and yields gives no value. -/
def function (p : Place) (isAsync yields : Bool) : Place :=
  { top (if isAsync then .asyncFunction else .function) p.keepsHints with
    givesValue := !(isAsync && yields) }

/-- A place inside some more blocks. -/
def inside (p : Place) (n : Nat) : Place := { p with blocks := p.blocks + n }

/-- The body of a loop. -/
def loop (p : Place) : Place := { p.inside 1 with inLoop := true }

/-- The inside of a handler for a part of an error group, which can only be left at its end. -/
def groupHandler (p : Place) : Place := { p with inLoop := false, canReturn := false }

/-- The body of a `lambda`. -/
def lambda (p : Place) : Place := { p with body := .lambda, inHint := false }

/-- The inside of a comprehension. -/
def comprehension (p : Place) : Place := { p with body := .comprehension, inHint := false }

/-- What a comprehension runs over. -/
def iterable (p : Place) : Place := { p with inIterable := true }

/-- The hint of a parameter or a result. -/
def hint (p : Place) : Place :=
  if p.keepsHints then { p with inHint := true, isRun := false } else p

/-- The hint of a variable. -/
def variableHint (p : Place) : Place :=
  if p.body == .function || p.body == .asyncFunction then { p.hint with isRun := false } else p.hint

/-- Some more blocks can be opened here. -/
def hasRoom (p : Place) (n : Nat) : Bool := p.blocks + n ≤ maxBlocks
where
  /-- The most blocks that can be open. -/
  maxBlocks : Nat := 20

/-- A comprehension that makes a container can wait here. -/
def canWait (p : Place) : Bool :=
  !p.isRun || p.body == .asyncFunction || p.body == .comprehension

/-- Something can be yielded here. -/
def canYield (p : Place) : Bool :=
  !p.inHint && p.body != .comprehension &&
    (!p.isRun || (p.body != .module && p.body != .classBody))

end Place

/-! ## Expressions -/

/-- The expression has a star. -/
def Expr.isStar : Expr → Bool
  | .starred _ => true
  | _ => false

/-- The stars among targets fit. -/
def starsFit (targets : List Expr) : Bool :=
  oneStar Expr.isStar targets && startFits Expr.isStar targets

/-- The most clauses of one comprehension that can wait for their items. -/
def clausesFit (cs : List (Clause Expr)) : Bool :=
  (cs.filter (·.isAsync)).length ≤ 20

mutual

/-- An expression has nothing in a wrong place. -/
def Expr.fits (p : Place) : Expr → Bool
  | .name _ => true
  | .constant _ => true
  | .joined parts => fitsAll p parts
  | .formatted value _ spec => value.fits p && fitsOption p spec
  | .binary _ l r => l.fits p && r.fits p
  | .unary _ e => e.fits p
  | .bool _ es => fitsAll p es
  | .compare l rest => l.fits p && fitsCompared p rest
  | .conditional t a b => t.fits p && a.fits p && b.fits p
  | .lambda params body =>
    fitsDefaults p params && (!p.isRun || params.all (!isReserved ·.name)) && body.fits p.lambda
  | .tuple es => fitsItems p es
  | .list es => fitsItems p es
  | .set es => fitsItems p es
  | .dict items => fitsPairs p items
  | .comprehension kind e cs =>
    fitsClauses p true cs && e.fits p.comprehension && clausesFit cs &&
      (kind == .generator || p.canWait || !comprehensionWaits [e] cs)
  | .dictComprehension k v cs =>
    fitsClauses p true cs && k.fits p.comprehension && v.fits p.comprehension && clausesFit cs &&
      (p.canWait || !comprehensionWaits [k, v] cs)
  | .call f args keywords =>
    f.fits p && fitsItems p args && fitsKeywords p keywords &&
      (!p.isRun || allDistinct (keywords.filterMap (·.1)))
  | .attribute e _ => e.fits p
  | .subscript e i => e.fits p && i.fits p
  | .slice a b c => fitsOption p a && fitsOption p b && fitsOption p c
  | .starred e => !p.isRun && e.fits p
  | .walrus name e =>
    !p.inHint && !p.inIterable && (!p.isRun || !isReserved name) && e.fits p
  | .await e => !p.inHint && p.canWait && e.fits p
  | .yield e => p.canYield && fitsOption p e
  | .yieldFrom e => p.canYield && (!p.isRun || p.body != .asyncFunction) && e.fits p

/-- Every expression fits. -/
def fitsAll (p : Place) : List Expr → Bool
  | [] => true
  | e :: es => e.fits p && fitsAll p es

/-- Every item fits; an item may be starred. -/
def fitsItems (p : Place) : List Expr → Bool
  | [] => true
  | .starred e :: es => e.fits p && fitsItems p es
  | e :: es => e.fits p && fitsItems p es

/-- An expression that may be missing fits. -/
def fitsOption (p : Place) : Option Expr → Bool
  | some e => e.fits p
  | none => true

/-- Compared expressions fit. -/
def fitsCompared (p : Place) : List (CompareOp × Expr) → Bool
  | [] => true
  | (_, e) :: rest => e.fits p && fitsCompared p rest

/-- The items of a dictionary fit. -/
def fitsPairs (p : Place) : List (Option Expr × Expr) → Bool
  | [] => true
  | (k, v) :: rest => fitsOption p k && v.fits p && fitsPairs p rest

/-- Arguments by name fit. -/
def fitsKeywords (p : Place) : List (Option String × Expr) → Bool
  | [] => true
  | (k, v) :: rest =>
    (!p.isRun || k.all (!isReserved ·)) && v.fits p && fitsKeywords p rest

/-- Defaults of parameters fit. -/
def fitsDefaults (p : Place) : List (Parameter Expr) → Bool
  | [] => true
  | ⟨_, _, _, d⟩ :: rest => fitsOption p d && fitsDefaults p rest

/-- The clauses of a comprehension fit. What the first one runs over is outside of it. -/
def fitsClauses (p : Place) (isFirst : Bool) : List (Clause Expr) → Bool
  | [] => true
  | ⟨_, target, iter, conditions⟩ :: rest =>
    target.fitsTarget p.comprehension &&
      iter.fits (if isFirst then p.iterable else p.comprehension.iterable) &&
      fitsAll p.comprehension conditions && fitsClauses p false rest

/-- A target of an assignment fits. -/
def Expr.fitsTarget (p : Place) : Expr → Bool
  | .name id => !p.isRun || !isReserved id
  | .tuple es => fitsTargets p es && (!p.isRun || starsFit es)
  | .list es => fitsTargets p es && (!p.isRun || starsFit es)
  | .attribute e name => (!p.isRun || !isReserved name) && e.fits p
  | .subscript e i => e.fits p && i.fits p
  | .starred e => !p.isRun && e.fitsTarget p
  | _ => false

/-- Every target fits; a target in a list may be starred. -/
def fitsTargets (p : Place) : List Expr → Bool
  | [] => true
  | .starred e :: es => e.fitsTarget p && fitsTargets p es
  | e :: es => e.fitsTarget p && fitsTargets p es

end

/-- The target of an assignment that changes it fits. -/
def Expr.fitsAugmented (p : Place) : Expr → Bool
  | .attribute e _ => e.fits p
  | e => e.fitsTarget p

mutual

/-- What is deleted fits. -/
def Expr.fitsDeleted (p : Place) : Expr → Bool
  | .attribute e _ => e.fits p
  | .tuple es => fitDeleted p es
  | .list es => fitDeleted p es
  | e => e.fitsTarget p

/-- Everything that is deleted fits. -/
def fitDeleted (p : Place) : List Expr → Bool
  | [] => true
  | e :: es => e.fitsDeleted p && fitDeleted p es

end

/-- A hint fits; one beside a starred parameter may be starred. -/
def hintFits (p : Place) (x : Parameter Expr) : Bool :=
  match x.kind, x.hint with
  | .variadic, some (.starred e) => e.fits p.hint
  | _, some e => e.fits p.hint
  | _, none => true

/-! ## Statements -/

mutual

/-- A statement has nothing in a wrong place. -/
def Stmt.fits (p : Place) : Stmt → Bool
  | .expr e => e.fits p
  | .assign targets value => value.fits p && targets.all (·.fitsTarget p)
  | .augment target _ value => target.fitsAugmented p && value.fits p
  | .annotate target hint value _ =>
    target.fitsTarget p && hint.fits p.variableHint && fitsOption p value
  | .ret value => p.canReturn && (value.isNone || p.givesValue) && fitsOption p value
  | .delete targets => targets.all (·.fitsDeleted p)
  | .pass => true
  | .breakLoop => p.inLoop
  | .continueLoop => p.inLoop
  | .raise e c => fitsOption p e && fitsOption p c
  | .global _ => true
  | .nonlocal _ => true
  | .assert t m => t.fits p && fitsOption p m
  | .importNames names => names.all fun a => !isReserved a.bound
  | .importFrom _ module names =>
    module != some "__future__" && names.all fun a =>
      !isReserved (a.asName.getD a.name) && (a.name != "*" || p.body == .module)
  | .cond t body orelse => t.fits p && fit p body && fit p orelse
  | .whileLoop t body orelse =>
    p.hasRoom 1 && t.fits p && fit p.loop body && fit p orelse
  | .forLoop isAsync target iter body orelse =>
    (!isAsync || p.body == .asyncFunction) && p.hasRoom 1 && target.fitsTarget p && iter.fits p &&
      fit p.loop body && fit p orelse
  | .withItems isAsync items body =>
    (!isAsync || p.body == .asyncFunction) && p.hasRoom items.length &&
      items.all (fun i => i.1.fits p && i.2.all (·.fitsTarget p)) && fit (p.inside items.length) body
  | .tryBlock body star handlers orelse final =>
    let guarded := p.inside (if final.isEmpty then 0 else 1)
    let handled := if star then (guarded.inside 2).groupHandler else guarded.inside 2
    guarded.hasRoom (if handlers.isEmpty then 0 else 2) && p.hasRoom 1 &&
      fit (guarded.inside (if handlers.isEmpty then 0 else 1)) body &&
      fitHandlers guarded handled handlers && fit guarded orelse && fit (p.inside 1) final
  | .choose subject cases => subject.fits p && fitCases p cases
  | .functionDef ⟨isAsync, name, params, returns, decorators, body⟩ =>
    !isReserved name && fitsAll p decorators && params.all (!isReserved ·.name) &&
      fitsDefaults p params && params.all (hintFits p) && fitsOption p.hint returns &&
      fit (p.function isAsync (bodyYields body)) body
  | .classDef ⟨name, bases, keywords, decorators, body⟩ =>
    !isReserved name && fitsAll p decorators && fitsItems p bases && fitsKeywords p keywords &&
      allDistinct (keywords.filterMap (·.1)) && fit (.top .classBody p.keepsHints) body

/-- Statements fit. -/
def fit (p : Place) : List Stmt → Bool
  | [] => true
  | s :: ss => s.fits p && fit p ss

/-- Handlers fit: only the last one may take every error. -/
def fitHandlers (p handled : Place) : List (Handler Stmt) → Bool
  | [] => true
  | ⟨type, name, body⟩ :: rest =>
    (type.isSome || rest.isEmpty) && fitsOption p type && name.all (!isReserved ·) &&
      fit handled body && fitHandlers p handled rest

/-- Cases fit: only the last one, or one with a condition, may always match. -/
def fitCases (p : Place) : List (Case Stmt) → Bool
  | [] => true
  | ⟨pattern, guard, body⟩ :: rest =>
    (pattern.captures? (guard.isSome || rest.isEmpty) []).isSome && fitsOption p guard &&
      fit p body && fitCases p rest

end

/-! ## Imports with a place of their own -/

/-- What a file can ask for by an import from the future. -/
def features : List String :=
  ["nested_scopes", "generators", "division", "absolute_import", "with_statement",
    "print_function", "unicode_literals", "barry_as_FLUFL", "generator_stop", "annotations"]

/-- The features that a statement asks for. A text asks for none, and it may stand before others
that do. -/
def Stmt.features? : Stmt → Option (List String)
  | .importFrom _ (some "__future__") names => some (names.map (·.name))
  | .expr (.constant (.text _ _)) => some []
  | _ => none

/-- The features asked for at the top of a file, and the statements after that. -/
def requested : List Stmt → List String × List Stmt
  | [] => ([], [])
  | s :: rest =>
    match s.features? with
    | some names =>
      let (more, body) := requested rest
      (names ++ more, body)
    | none => ([], s :: rest)

/-- Hints are kept as text and not looked at. -/
def keepsHints (body : List Stmt) : Bool :=
  (requested body).1.contains "annotations"

/-- The file can be run: nothing is in a wrong place, names keep their rules, and the features it
asks for exist. -/
def admissible (body : List Stmt) : Bool :=
  let (names, rest) := requested body
  let later := keepsHints body
  names.all features.contains && fit (.top .module later) rest && namesAgree later body

end Codebook.Source
