import Codebook.Source.Basic

/-!
# Functions that suspend

A function with a `yield` in its body, outside of the functions and classes defined in it, does not
run when it is called. Neither does one with an `await`. What a comprehension runs over first belongs
to the body around it; so do the defaults, the hints and the decorators of a definition.
-/

namespace Codebook.Source

/-- How a body suspends. -/
inductive Suspension
  | yields
  | waits
  deriving DecidableEq, Repr

mutual

/-- The expression suspends its body. A list, set or dictionary with a comprehension that waits waits
with it, a generator does not. -/
def Expr.suspends (how : Suspension) : Expr → Bool
  | .name _ => false
  | .constant _ => false
  | .joined parts => anySuspends how parts
  | .formatted value _ spec => value.suspends how || optionSuspends how spec
  | .binary _ l r => l.suspends how || r.suspends how
  | .unary _ e => e.suspends how
  | .bool _ es => anySuspends how es
  | .compare l rest => l.suspends how || comparedSuspends how rest
  | .conditional t a b => t.suspends how || a.suspends how || b.suspends how
  | .lambda params _ => defaultsSuspend how params
  | .tuple es => anySuspends how es
  | .list es => anySuspends how es
  | .set es => anySuspends how es
  | .dict items => itemsSuspend how items
  | .comprehension kind e cs =>
    let (first, rest) := clausesSuspend how true cs
    first || (how == .waits && kind != .generator && (rest || e.suspends how))
  | .dictComprehension k v cs =>
    let (first, rest) := clausesSuspend how true cs
    first || (how == .waits && (rest || k.suspends how || v.suspends how))
  | .call f args keywords =>
    f.suspends how || anySuspends how args || keywordsSuspend how keywords
  | .attribute e _ => e.suspends how
  | .subscript e i => e.suspends how || i.suspends how
  | .slice a b c => optionSuspends how a || optionSuspends how b || optionSuspends how c
  | .starred e => e.suspends how
  | .walrus _ e => e.suspends how
  | .await e => how == .waits || e.suspends how
  | .yield e => how == .yields || optionSuspends how e
  | .yieldFrom e => how == .yields || e.suspends how

/-- One of the expressions suspends. -/
def anySuspends (how : Suspension) : List Expr → Bool
  | [] => false
  | e :: es => e.suspends how || anySuspends how es

/-- An expression that may be missing suspends. -/
def optionSuspends (how : Suspension) : Option Expr → Bool
  | some e => e.suspends how
  | none => false

/-- One of the compared expressions suspends. -/
def comparedSuspends (how : Suspension) : List (CompareOp × Expr) → Bool
  | [] => false
  | (_, e) :: rest => e.suspends how || comparedSuspends how rest

/-- One of the items of a dictionary suspends. -/
def itemsSuspend (how : Suspension) : List (Option Expr × Expr) → Bool
  | [] => false
  | (k, v) :: rest => optionSuspends how k || v.suspends how || itemsSuspend how rest

/-- One of the arguments by name suspends. -/
def keywordsSuspend (how : Suspension) : List (Option String × Expr) → Bool
  | [] => false
  | (_, v) :: rest => v.suspends how || keywordsSuspend how rest

/-- One of the defaults suspends. -/
def defaultsSuspend (how : Suspension) : List (Parameter Expr) → Bool
  | [] => false
  | ⟨_, _, _, d⟩ :: rest => optionSuspends how d || defaultsSuspend how rest

/-- What the first clause runs over suspends, and something else in the clauses does. A clause that
waits for its items is such a thing. -/
def clausesSuspend (how : Suspension) (isFirst : Bool) : List (Clause Expr) → Bool × Bool
  | [] => (false, false)
  | ⟨isAsync, target, iter, conditions⟩ :: rest =>
    let here := (how == .waits && isAsync) || target.suspends how || anySuspends how conditions
    let (_, more) := clausesSuspend how false rest
    if isFirst then (iter.suspends how, here || more)
    else (false, iter.suspends how || here || more)

end

/-- A comprehension over the clauses waits, but for what it runs over first. -/
def comprehensionWaits (elements : List Expr) (cs : List (Clause Expr)) : Bool :=
  (clausesSuspend .waits true cs).2 || anySuspends .waits elements

/-- The hints of a definition suspend. -/
def hintsSuspend (how : Suspension) (params : List (Parameter Expr)) (returns : Option Expr) :
    Bool :=
  params.any (fun p => optionSuspends how p.hint) || optionSuspends how returns

mutual

/-- The statement has a `yield`. -/
def Stmt.yields : Stmt → Bool
  | .expr e => e.suspends .yields
  | .assign targets value => anySuspends .yields targets || value.suspends .yields
  | .augment target _ value => target.suspends .yields || value.suspends .yields
  | .annotate target hint value _ =>
    target.suspends .yields || hint.suspends .yields || optionSuspends .yields value
  | .ret value => optionSuspends .yields value
  | .delete targets => anySuspends .yields targets
  | .raise e c => optionSuspends .yields e || optionSuspends .yields c
  | .assert t m => t.suspends .yields || optionSuspends .yields m
  | .cond t body orelse => t.suspends .yields || bodyYields body || bodyYields orelse
  | .whileLoop t body orelse => t.suspends .yields || bodyYields body || bodyYields orelse
  | .forLoop _ target iter body orelse =>
    target.suspends .yields || iter.suspends .yields || bodyYields body || bodyYields orelse
  | .withItems _ items body =>
    items.any (fun i => i.1.suspends .yields || optionSuspends .yields i.2) || bodyYields body
  | .tryBlock body _ handlers orelse final =>
    bodyYields body || handlersYield handlers || bodyYields orelse || bodyYields final
  | .choose subject cases => subject.suspends .yields || casesYield cases
  | .functionDef f =>
    anySuspends .yields f.decorators || defaultsSuspend .yields f.params ||
      hintsSuspend .yields f.params f.returns
  | .classDef c =>
    anySuspends .yields c.decorators || anySuspends .yields c.bases ||
      keywordsSuspend .yields c.keywords
  | _ => false

/-- One of the statements has a `yield`. -/
def bodyYields : List Stmt → Bool
  | [] => false
  | s :: ss => s.yields || bodyYields ss

/-- One of the handlers has a `yield`. -/
def handlersYield : List (Handler Stmt) → Bool
  | [] => false
  | ⟨type, _, body⟩ :: rest =>
    optionSuspends .yields type || bodyYields body || handlersYield rest

/-- One of the cases has a `yield`. -/
def casesYield : List (Case Stmt) → Bool
  | [] => false
  | ⟨_, guard, body⟩ :: rest =>
    optionSuspends .yields guard || bodyYields body || casesYield rest

end

/-- What a call of a function gives if the function suspends. -/
def suspension? (isAsync : Bool) (body : List Stmt) : Option String :=
  match isAsync, bodyYields body with
  | true, true => some "async_generator"
  | true, false => some "coroutine"
  | false, true => some "generator"
  | false, false => none

end Codebook.Source
