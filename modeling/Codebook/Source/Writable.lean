import Codebook.Source.Basic
import Codebook.Text.Integer

/-!
# Hints that can be kept as text

Where hints are kept as text, they are written when the file is read. A hint with a whole number of
too many digits cannot be written, and the file with it cannot be run. Hints of variables in a
function are not kept.
-/

namespace Codebook.Source

open Text

/-- The constant can be written: it is no whole number of too many digits. -/
def Constant.isWritable : Constant → Bool
  | .number (.int n) => n < Nat.pow 10 digitLimit
  | _ => Bool.true

mutual

/-- The expression can be written. -/
def Expr.isWritable : Expr → Bool
  | .name _ => true
  | .constant c => c.isWritable
  | .joined parts => areWritable parts
  | .formatted value _ spec => value.isWritable && optionWritable spec
  | .binary _ l r => l.isWritable && r.isWritable
  | .unary _ e => e.isWritable
  | .bool _ es => areWritable es
  | .compare l rest => l.isWritable && comparedWritable rest
  | .conditional t a b => t.isWritable && a.isWritable && b.isWritable
  | .lambda params body => defaultsWritable params && body.isWritable
  | .tuple es => areWritable es
  | .list es => areWritable es
  | .set es => areWritable es
  | .dict items => itemsWritable items
  | .comprehension _ e cs => e.isWritable && clausesWritable cs
  | .dictComprehension k v cs => k.isWritable && v.isWritable && clausesWritable cs
  | .call f args keywords => f.isWritable && areWritable args && keywordsWritable keywords
  | .attribute e _ => e.isWritable
  | .subscript e i => e.isWritable && i.isWritable
  | .slice a b c => optionWritable a && optionWritable b && optionWritable c
  | .starred e => e.isWritable
  | .walrus _ e => e.isWritable
  | .await e => e.isWritable
  | .yield e => optionWritable e
  | .yieldFrom e => e.isWritable

/-- Every expression can be written. -/
def areWritable : List Expr → Bool
  | [] => true
  | e :: es => e.isWritable && areWritable es

/-- An expression that may be missing can be written. -/
def optionWritable : Option Expr → Bool
  | some e => e.isWritable
  | none => true

/-- The compared expressions can be written. -/
def comparedWritable : List (CompareOp × Expr) → Bool
  | [] => true
  | (_, e) :: rest => e.isWritable && comparedWritable rest

/-- The items of a dictionary can be written. -/
def itemsWritable : List (Option Expr × Expr) → Bool
  | [] => true
  | (k, v) :: rest => optionWritable k && v.isWritable && itemsWritable rest

/-- The arguments by name can be written. -/
def keywordsWritable : List (Option String × Expr) → Bool
  | [] => true
  | (_, v) :: rest => v.isWritable && keywordsWritable rest

/-- The defaults can be written. -/
def defaultsWritable : List (Parameter Expr) → Bool
  | [] => true
  | ⟨_, _, _, d⟩ :: rest => optionWritable d && defaultsWritable rest

/-- The clauses can be written. -/
def clausesWritable : List (Clause Expr) → Bool
  | [] => true
  | ⟨_, target, iter, conditions⟩ :: rest =>
    target.isWritable && iter.isWritable && areWritable conditions && clausesWritable rest

end

mutual

/-- The hints of a statement that are kept can be written. -/
def Stmt.hintsWritable (inFunction : Bool) : Stmt → Bool
  | .annotate _ hint _ simple => inFunction || !simple || hint.isWritable
  | .cond _ body orelse => bodyWritable inFunction body && bodyWritable inFunction orelse
  | .whileLoop _ body orelse =>
    bodyWritable inFunction body && bodyWritable inFunction orelse
  | .forLoop _ _ _ body orelse =>
    bodyWritable inFunction body && bodyWritable inFunction orelse
  | .withItems _ _ body => bodyWritable inFunction body
  | .tryBlock body _ handlers orelse final =>
    bodyWritable inFunction body && handlerHintsWritable inFunction handlers &&
      bodyWritable inFunction orelse && bodyWritable inFunction final
  | .choose _ cases => caseHintsWritable inFunction cases
  | .functionDef ⟨_, _, params, returns, _, body⟩ =>
    params.all (fun p => optionWritable p.hint) && optionWritable returns &&
      bodyWritable true body
  | .classDef ⟨_, _, _, _, body⟩ => bodyWritable false body
  | _ => true

/-- The hints of statements that are kept can be written. -/
def bodyWritable (inFunction : Bool) : List Stmt → Bool
  | [] => true
  | s :: ss => s.hintsWritable inFunction && bodyWritable inFunction ss

/-- The hints in handlers that are kept can be written. -/
def handlerHintsWritable (inFunction : Bool) : List (Handler Stmt) → Bool
  | [] => true
  | ⟨_, _, body⟩ :: rest =>
    bodyWritable inFunction body && handlerHintsWritable inFunction rest

/-- The hints in cases that are kept can be written. -/
def caseHintsWritable (inFunction : Bool) : List (Case Stmt) → Bool
  | [] => true
  | ⟨_, _, body⟩ :: rest =>
    bodyWritable inFunction body && caseHintsWritable inFunction rest

end

mutual

/-- The statement has the hint of a variable, in its blocks or by itself. -/
def Stmt.hints : Stmt → Bool
  | .annotate _ _ _ _ => true
  | .cond _ body orelse => bodyHints body || bodyHints orelse
  | .whileLoop _ body orelse => bodyHints body || bodyHints orelse
  | .forLoop _ _ _ body orelse => bodyHints body || bodyHints orelse
  | .withItems _ _ body => bodyHints body
  | .tryBlock body _ handlers orelse final =>
    bodyHints body || handlersHint handlers || bodyHints orelse || bodyHints final
  | _ => false

/-- One of the statements has the hint of a variable. -/
def bodyHints : List Stmt → Bool
  | [] => false
  | s :: ss => s.hints || bodyHints ss

/-- One of the handlers has the hint of a variable. -/
def handlersHint : List (Handler Stmt) → Bool
  | [] => false
  | ⟨_, _, body⟩ :: rest => bodyHints body || handlersHint rest

end

end Codebook.Source
