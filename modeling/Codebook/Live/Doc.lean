import Codebook.Live.Attribute
import Codebook.Text.Lines
import Codebook.Text.Margin

/-!
# Docstrings of live objects

A class without a docstring takes the first one along its order; a method without one takes that of
the same method along the order of the class that it was defined in.
-/

namespace Codebook.Live

open Text

/-- A member of a module or class, seen from there. -/
def Store.member? (s : Store) (v : Value) (name : String) : Option Value :=
  match v with
  | .module (.loaded f) => (s.frame f).vars.get? name
  | .cls c =>
    match s.findAttribute? c name with
    | some (_, .staticMethod f) => some f
    | some (_, .classMethod (.function id)) => some (.bound (.cls c) id)
    | some (_, v) => some v
    | none => none
  | _ => none

/-- The class that the full name of a function leads to. -/
def Store.definingClass? (s : Store) (f : FunctionObject) : Option ClassRef := do
  let .text home := f.home | none
  let frame ← s.module? home
  let steps := (dottedParts f.path).dropLast
  let v ← steps.foldlM s.member? (.module (.loaded frame))
  let .cls c := v | none
  return c

/-- The docstring that a value has by itself. -/
def Store.ownDoc (s : Store) : Value → Value
  | .function id => (s.function id).doc
  | .bound _ id => (s.function id).doc
  | .cls c => s.classDoc c
  | .property (.function id) => (s.function id).doc
  | _ => .none

/-- The first docstring of a member along the order of a class. -/
def Store.memberDoc (s : Store) (c : ClassRef) (name : String) : Value :=
  ((s.order c).findSome? fun d =>
    match (s.member? (.cls d) name).map s.ownDoc with
    | some .none => none
    | found => found).getD .none

/-- The docstring that a value takes over from elsewhere. -/
def Store.inheritedDoc (s : Store) (v : Value) : Value :=
  match v with
  | .cls c =>
    (((s.order c).filter (· != .known "object")).findSome? fun d =>
      match s.classDoc d with
      | .none => none
      | doc => some doc).getD .none
  | .function id =>
    let f := s.function id
    match s.definingClass? f with
    | some c =>
      match s.member? (.cls c) f.name with
      | some (.function found) => if found == id then s.memberDoc c f.name else .none
      | _ => .none
    | none => .none
  | .bound (.cls c) id => s.memberDoc c (s.function id).name
  | .bound self id => s.memberDoc (s.classOf self) (s.function id).name
  | _ => .none

/-- The docstring of a value without the indentation of the code around it. -/
def Store.doc? (s : Store) (v : Value) : Option String :=
  let found := match s.ownDoc v with
    | .none => s.inheritedDoc v
    | doc => doc
  match found with
  | .text t => some (dedent t)
  | _ => none

end Codebook.Live
