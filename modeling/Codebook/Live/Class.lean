import Codebook.Live.Linearize
import Codebook.Live.Value

/-!
# Facts about classes

Names, docstrings, the order of look-up and the layout of classes, those of the table and those that
a source file defines.
-/

namespace Codebook.Live

/-! ## Known classes -/

/-- The order of a known class, to the given depth. -/
def knownOrderTo : (depth : Nat) → String → List ClassRef
  | 0, name => [.known name]
  | n + 1, name =>
    let bases := (knownClass? name).elim [] (·.bases)
    (linearize (ClassRef.known name) (bases.map (knownOrderTo n)) (bases.map .known)).getD []

/-- The order of a known class. No class of the table is more than six steps below the last one. -/
def knownOrder (name : String) : List ClassRef :=
  knownOrderTo 6 name

namespace Store

/-! ## All classes -/

/-- Where attributes of a class are looked up. -/
def order (s : Store) : ClassRef → List ClassRef
  | .known name => knownOrder name
  | .defined id => (s.classObject id).order

/-- The attributes that a class itself has. -/
def classVars (s : Store) : ClassRef → Table
  | .known name =>
    match knownClass? name with
    | some c =>
      [("__module__", .text c.home), ("__doc__", c.doc.elim .none .text)]
    | none => []
  | .defined id => (s.classObject id).vars

/-- The name of a class. -/
def className (s : Store) : ClassRef → String
  | .known name => name
  | .defined id => (s.classObject id).name

/-- The name of a class with the names of what is around its definition. -/
def classPath (s : Store) : ClassRef → String
  | .known name => name
  | .defined id => (s.classObject id).path

/-- The module that a class says it is from. -/
def classHome (s : Store) (c : ClassRef) : Value :=
  ((s.classVars c).get? "__module__").getD .none

/-- The docstring that a class itself has. -/
def classDoc (s : Store) (c : ClassRef) : Value :=
  ((s.classVars c).get? "__doc__").getD .none

/-- The name of a class as it shows itself: its module and its full name, or its own name alone if the
module is the one that needs no import, or no text. -/
def classTitle (s : Store) (c : ClassRef) : String :=
  match s.classHome c with
  | .text "builtins" => s.className c
  | .text home => home ++ "." ++ s.classPath c
  | _ => s.className c

/-- One class is, or is derived from, another. -/
def isDerived (s : Store) (c d : ClassRef) : Bool :=
  (s.order c).contains d

/-- The class is one of exceptions. -/
def isException (s : Store) (c : ClassRef) : Bool :=
  s.isDerived c (.known "BaseException")

/-- The first value of an attribute in the order of a class, and the class that has it. -/
def findAttribute? (s : Store) (c : ClassRef) (name : String) : Option (ClassRef × Value) :=
  (s.order c).findSome? fun d => ((s.classVars d).get? name).map (d, ·)

/-- The class whose layout a class has. -/
def layout (s : Store) : ClassRef → ClassRef
  | .known name => .known ((knownClass? name).elim "object" (·.layout))
  | .defined id => (s.classObject id).layout

/-- The class can be the base of another. -/
def isOpen (c : ClassRef) : Bool :=
  match c with
  | .known name => (knownClass? name).all fun k => !k.sealed
  | .defined _ => true

/-- The layouts of the bases lie on one line. -/
def layoutsAgree (s : Store) (bases : List ClassRef) : Bool :=
  let ls := bases.map s.layout
  ls.all fun a => ls.all fun b => s.isDerived a b || s.isDerived b a

/-- The layout of a class with the given bases: the first one that no other goes beyond. -/
def widestLayout (s : Store) (bases : List ClassRef) : ClassRef :=
  (bases.map s.layout).foldl (fun winner l => if s.isDerived winner l then winner else l)
    (.known "object")

end Store

/-- The class of a value. -/
def Store.classOf (s : Store) : Value → ClassRef
  | .none => .known "NoneType"
  | .ellipsis => .known "ellipsis"
  | .notImplemented => .known "NotImplementedType"
  | .bool _ => .known "bool"
  | .int _ => .known "int"
  | .float _ => .known "float"
  | .complex _ => .known "complex"
  | .text _ => .known "str"
  | .bytes _ => .known "bytes"
  | .tuple _ => .known "tuple"
  | .list _ => .known "list"
  | .set _ => .known "set"
  | .dict _ => .known "dict"
  | .cls _ => .known "type"
  | .function _ => .known "function"
  | .bound _ _ => .known "method"
  | .object id => (s.object id).cls
  | .staticMethod _ => .known "staticmethod"
  | .classMethod _ => .known "classmethod"
  | .property _ => .known "property"
  | .native _ => .known "builtin_function_or_method"
  | .given _ _ => .known "builtin_function_or_method"
  | .module _ => .known "module"
  | .form name none => .known (formClass name)
  | .form "Union" (some _) => .known "_UnionGenericAlias"
  | .form _ (some _) => .known "_GenericAlias"
  | .generic _ _ => .known "GenericAlias"
  | .union _ => .known "UnionType"
  | .forward _ => .known "ForwardRef"
  | .unpacked (.form _ _) => .known "_UnpackGenericAlias"
  | .unpacked _ => .known "GenericAlias"
where
  /-- The class of a form without arguments. -/
  formClass (name : String) : String :=
    if name == "Optional" || name == "Union" then "_SpecialForm"
    else if name == "Any" then "type" else "_SpecialGenericAlias"

/-- The name of the class of a value. -/
def Store.typeName (s : Store) (v : Value) : String :=
  s.className (s.classOf v)

/-- The value belongs to the class. -/
def Store.isInstance (s : Store) (v : Value) (c : ClassRef) : Bool :=
  c == .known "object" || s.isDerived (s.classOf v) c

end Codebook.Live
