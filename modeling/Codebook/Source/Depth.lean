import Codebook.Source.Basic

/-!
# How deep a source file goes

The depth of a part of a source file is the length of the longest way down from it. The lists of
parameters, the parameters, the arguments by name, the clauses of a comprehension, the items of a
`with`, the handlers, the cases and the patterns are steps of their own on that way.
-/

namespace Codebook.Source

mutual

/-- The depth of an expression. -/
def Expr.depth : Expr → Nat
  | .name _ => 1
  | .constant _ => 1
  | .joined parts => deepest parts + 1
  | .formatted value _ spec => max value.depth (deepestOption spec) + 1
  | .binary _ l r => max l.depth r.depth + 1
  | .unary _ e => e.depth + 1
  | .bool _ es => deepest es + 1
  | .compare l rest => max l.depth (deepestComparison rest) + 1
  | .conditional test yes no => max test.depth (max yes.depth no.depth) + 1
  | .lambda params body => max (deepestParameter params + 1) body.depth + 1
  | .tuple es => deepest es + 1
  | .list es => deepest es + 1
  | .set es => deepest es + 1
  | .dict items => deepestItem items + 1
  | .comprehension _ e cs => max e.depth (deepestClause cs) + 1
  | .dictComprehension k v cs => max k.depth (max v.depth (deepestClause cs)) + 1
  | .call f args keywords => max f.depth (max (deepest args) (deepestKeyword keywords)) + 1
  | .attribute e _ => e.depth + 1
  | .subscript e i => max e.depth i.depth + 1
  | .slice a b c => max (deepestOption a) (max (deepestOption b) (deepestOption c)) + 1
  | .starred e => e.depth + 1
  | .walrus _ e => e.depth + 1
  | .await e => e.depth + 1
  | .yield e => deepestOption e + 1
  | .yieldFrom e => e.depth + 1

/-- The depth of the deepest expression. -/
def deepest : List Expr → Nat
  | [] => 0
  | e :: es => max e.depth (deepest es)

/-- The depth of an expression that may be missing. -/
def deepestOption : Option Expr → Nat
  | some e => e.depth
  | none => 0

/-- The depth of the deepest operand after the first. -/
def deepestComparison : List (CompareOp × Expr) → Nat
  | [] => 0
  | (_, e) :: rest => max e.depth (deepestComparison rest)

/-- The depth of the deepest item of a dictionary. -/
def deepestItem : List (Option Expr × Expr) → Nat
  | [] => 0
  | (k, v) :: rest => max (deepestOption k) (max v.depth (deepestItem rest))

/-- The depth of the deepest argument by name. -/
def deepestKeyword : List (Option String × Expr) → Nat
  | [] => 0
  | (_, v) :: rest => max (v.depth + 1) (deepestKeyword rest)

/-- The depth of the deepest clause. -/
def deepestClause : List (Clause Expr) → Nat
  | [] => 0
  | ⟨_, target, iter, conditions⟩ :: rest =>
    max (max target.depth (max iter.depth (deepest conditions)) + 1) (deepestClause rest)

/-- The depth of the deepest parameter, with the default beside it. -/
def deepestParameter : List (Parameter Expr) → Nat
  | [] => 0
  | ⟨_, _, hint, default⟩ :: rest =>
    max (max (deepestOption hint + 1) (deepestOption default)) (deepestParameter rest)

end

mutual

/-- The depth of a pattern. -/
def Pattern.depth : Pattern → Nat
  | .wildcard => 1
  | .capture _ => 1
  | .value e => e.depth + 1
  | .sequence items => deepestPattern items + 1
  | .star _ => 1
  | .mapping keys _ => deepestKey keys + 1
  | .shape of positional keywords =>
    max of.depth (max (deepestPattern positional) (deepestNamed keywords)) + 1
  | .either options => deepestPattern options + 1
  | .named p _ => p.depth + 1

/-- The depth of the deepest pattern. -/
def deepestPattern : List Pattern → Nat
  | [] => 0
  | p :: ps => max p.depth (deepestPattern ps)

/-- The depth of the deepest key with its pattern. -/
def deepestKey : List (Expr × Pattern) → Nat
  | [] => 0
  | (e, p) :: rest => max e.depth (max p.depth (deepestKey rest))

/-- The depth of the deepest pattern with a name. -/
def deepestNamed : List (String × Pattern) → Nat
  | [] => 0
  | (_, p) :: rest => max p.depth (deepestNamed rest)

end

/-- The depth of the deepest item of a `with`. -/
def deepestWith : List (Expr × Option Expr) → Nat
  | [] => 0
  | (e, target) :: rest => max (max e.depth (deepestOption target) + 1) (deepestWith rest)

mutual

/-- The depth of a statement. -/
def Stmt.depth : Stmt → Nat
  | .expr e => e.depth + 1
  | .assign targets value => max (deepest targets) value.depth + 1
  | .augment target _ value => max target.depth value.depth + 1
  | .annotate target hint value _ =>
    max target.depth (max hint.depth (deepestOption value)) + 1
  | .ret value => deepestOption value + 1
  | .delete targets => deepest targets + 1
  | .pass => 1
  | .breakLoop => 1
  | .continueLoop => 1
  | .raise error cause => max (deepestOption error) (deepestOption cause) + 1
  | .global _ => 1
  | .nonlocal _ => 1
  | .assert test message => max test.depth (deepestOption message) + 1
  | .importNames _ => 2
  | .importFrom _ _ _ => 2
  | .cond test body orelse => max test.depth (max (deepestIn body) (deepestIn orelse)) + 1
  | .whileLoop test body orelse => max test.depth (max (deepestIn body) (deepestIn orelse)) + 1
  | .forLoop _ target iter body orelse =>
    max (max target.depth iter.depth) (max (deepestIn body) (deepestIn orelse)) + 1
  | .withItems _ items body => max (deepestWith items) (deepestIn body) + 1
  | .tryBlock body _ handlers orelse final =>
    max (max (deepestIn body) (deepestHandler handlers)) (max (deepestIn orelse) (deepestIn final))
      + 1
  | .choose subject cases => max subject.depth (deepestCase cases) + 1
  | .functionDef ⟨_, _, params, returns, decorators, body⟩ =>
    max (max (deepestParameter params + 1) (deepestOption returns))
      (max (deepest decorators) (deepestIn body)) + 1
  | .classDef ⟨_, bases, keywords, decorators, body⟩ =>
    max (max (deepest bases) (deepestKeyword keywords)) (max (deepest decorators) (deepestIn body))
      + 1

/-- The depth of the deepest statement. -/
def deepestIn : List Stmt → Nat
  | [] => 0
  | s :: ss => max s.depth (deepestIn ss)

/-- The depth of the deepest handler. -/
def deepestHandler : List (Handler Stmt) → Nat
  | [] => 0
  | ⟨type, _, body⟩ :: rest =>
    max (max (deepestOption type) (deepestIn body) + 1) (deepestHandler rest)

/-- The depth of the deepest case. -/
def deepestCase : List (Case Stmt) → Nat
  | [] => 0
  | ⟨pattern, guard, body⟩ :: rest =>
    max (max pattern.depth (max (deepestOption guard) (deepestIn body)) + 1) (deepestCase rest)

end

/-- The greatest depth of a file that can be described. -/
def depthLimit : Nat := 2985

/-- The greatest depth of a file that can be run. -/
def runDepthLimit : Nat := 2950

end Codebook.Source
