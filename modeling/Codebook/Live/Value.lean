import Codebook.Decimal.Complex
import Codebook.Live.Known
import Codebook.Source.Basic

/-!
# Values and where they are kept

Running a source file makes values. Constants and containers are values by themselves; functions,
classes, other objects and the variables of running bodies are kept in a `Store` and named by their
place in it. A run that fails leaves behind what it did so far.
-/

namespace Codebook.Live

open Source

/-! ## Values -/

/-- A class: one that needs no definition, or one that a source file defines. -/
inductive ClassRef
  | known (name : String)
  | defined (id : Nat)
  deriving DecidableEq, Repr, Inhabited

/-- A module: one that needs no file, or one that was loaded, named by its variables. -/
inductive ModuleRef
  | known (name : String)
  | loaded (frame : Nat)
  deriving DecidableEq, Repr

/-- Functions that need no definition. `named` are those that can be passed on but not called. -/
inductive Native
  | print | repr | len | isinstance | issubclass | callable | getattr | setattr | hasattr
  | exit | wraps | wrapWith | propertyPart
  | strip | lower | upper | join | startsWith | endsWith
  | objectMethod (name : String)
  | named (name : String)
  deriving DecidableEq, Repr

/-- A value. Types of hints are a form with its arguments (`List`, `Optional[int]`), a class with
arguments (`list[int]`), alternatives (`int | None`), a name that is yet to come, or one of these
that is spread out (`*tuple[int, ...]`). -/
inductive Value
  | none
  | ellipsis
  | notImplemented
  | bool (b : Bool)
  | int (n : Int)
  | float (x : Float)
  | complex (z : Decimal.ComplexDouble)
  | text (s : String)
  | bytes (b : List UInt8)
  | tuple (items : List Value)
  | list (items : List Value)
  | set (items : List Value)
  | dict (items : List (Value × Value))
  | cls (c : ClassRef)
  | function (id : Nat)
  | bound (self : Value) (function : Nat)
  | object (id : Nat)
  | staticMethod (f : Value)
  | classMethod (f : Value)
  | property (get : Value)
  | native (f : Native)
  | given (f : Native) (first : Value)
  | module (m : ModuleRef)
  | form (name : String) (args : Option (List Value))
  | generic (origin : ClassRef) (args : List Value)
  | union (members : List Value)
  | forward (s : String)
  | unpacked (type : Value)
  deriving Repr, Inhabited

/-- Values by name, in the order in which the names came up. -/
abbrev Table := List (String × Value)

namespace Table

/-- The value of a name. -/
def get? (t : Table) (name : String) : Option Value :=
  t.lookup name

/-- The table with a value for a name, which keeps its place if it has one. -/
def put (name : String) (v : Value) : Table → Table
  | [] => [(name, v)]
  | (n, w) :: t => if n == name then (n, v) :: t else (n, w) :: put name v t

/-- The table without a name. -/
def erase (name : String) (t : Table) : Table :=
  t.filter (·.1 != name)

end Table

/-! ## What is kept -/

/-- What a function does when it is called. -/
inductive Body
  | expr (e : Expr)
  | block (body : List Stmt)
  deriving Repr, Inhabited

/-- A function. Its parameters have no hints; those are in `hints`, that of the result under
`return`. `outer` are the variables of the calls around its definition, innermost first. -/
structure FunctionObject where
  name : String
  path : String
  home : Value
  doc : Value
  params : List (Parameter Value)
  hints : Table
  vars : Table
  body : Body
  suspends : Option String
  outer : List Nat
  globals : Nat
  className : Option String
  deriving Repr, Inhabited

/-- A class. `order` is where its attributes are looked up: the class itself and all classes that it
is derived from. `layout` is the class that its objects are laid out like. -/
structure ClassObject where
  name : String
  path : String
  bases : List ClassRef
  order : List ClassRef
  layout : ClassRef
  vars : Table
  deriving Repr, Inhabited

/-- An object of a class, with the arguments it was made with if it is an exception. -/
structure Object where
  cls : ClassRef
  args : List Value
  vars : Table
  deriving Repr, Inhabited

/-- The kinds of bodies that have variables. -/
inductive FrameKind
  | module | classBody | call
  deriving DecidableEq, Repr, Inhabited

/-- The variables of a running body. `own` are the names that belong to it and `declared` those that
it declares `global`; `path` stands before the names of what it defines, `className` is the class
that its private names belong to, and `keepsHints` says that hints are kept as text. -/
structure Frame where
  kind : FrameKind
  vars : Table
  own : List String
  declared : List String
  outer : List Nat
  globals : Nat
  path : String
  className : Option String
  keepsHints : Bool
  deriving Repr, Inhabited

/-- All that is kept: variables, functions, classes and objects by number, the modules loaded so far
by name, the forms of types made so far with what they were made of, the exceptions being handled,
and the text printed. -/
structure Store where
  frames : Array Frame
  functions : Array FunctionObject
  classes : Array ClassObject
  objects : Array Object
  modules : List (String × Nat)
  forms : List (String × Value × Value)
  handling : List Value
  printed : String
  deriving Repr, Inhabited

namespace Store

/-- Nothing is loaded. -/
def empty : Store := ⟨#[], #[], #[], #[], [], [], [], ""⟩

/-- The variables of the given number. -/
def frame (s : Store) (id : Nat) : Frame := s.frames.getD id default

/-- The function of the given number. -/
def function (s : Store) (id : Nat) : FunctionObject := s.functions.getD id default

/-- The class of the given number. -/
def classObject (s : Store) (id : Nat) : ClassObject := s.classes.getD id default

/-- The object of the given number. -/
def object (s : Store) (id : Nat) : Object := s.objects.getD id default

/-- The loaded module of the given name. -/
def module? (s : Store) (name : String) : Option Nat :=
  s.modules.lookup name

end Store

/-! ## Runs -/

/-- How a run ends early: an exception was raised, or the source does what lies outside of what is
followed here. -/
inductive Signal
  | raised (exception : Value)
  | beyond
  deriving Repr

/-- A run over the store. What it did before it ended early stays. -/
abbrev Run := ExceptT Signal (StateM Store)

namespace Run

/-- The source is followed no further. -/
def beyond {α : Type} : Run α := throw .beyond

/-- Keeps variables. -/
def newFrame (f : Frame) : Run Nat := do
  let s ← get
  set { s with frames := s.frames.push f }
  return s.frames.size

/-- Keeps a function. -/
def newFunction (f : FunctionObject) : Run Nat := do
  let s ← get
  set { s with functions := s.functions.push f }
  return s.functions.size

/-- Keeps a class. -/
def newClass (make : Nat → ClassObject) : Run Nat := do
  let s ← get
  set { s with classes := s.classes.push (make s.classes.size) }
  return s.classes.size

/-- Keeps an object. -/
def newObject (o : Object) : Run Nat := do
  let s ← get
  set { s with objects := s.objects.push o }
  return s.objects.size

/-- Changes the variables of the given number. -/
def setFrame (id : Nat) (f : Frame → Frame) : Run Unit :=
  modify fun s => { s with frames := s.frames.modify id f }

/-- Changes the function of the given number. -/
def setFunction (id : Nat) (f : FunctionObject → FunctionObject) : Run Unit :=
  modify fun s => { s with functions := s.functions.modify id f }

/-- Changes the class of the given number. -/
def setClass (id : Nat) (f : ClassObject → ClassObject) : Run Unit :=
  modify fun s => { s with classes := s.classes.modify id f }

/-- Changes the object of the given number. -/
def setObject (id : Nat) (f : Object → Object) : Run Unit :=
  modify fun s => { s with objects := s.objects.modify id f }

/-- Gives a variable a value. -/
def setVar (frame : Nat) (name : String) (v : Value) : Run Unit :=
  setFrame frame fun f => { f with vars := f.vars.put name v }

/-- Prints a text. -/
def print (s : String) : Run Unit :=
  modify fun st => { st with printed := st.printed ++ s }

/-- Raises an exception of a class that needs no definition. -/
def raiseWith {α : Type} (name : String) (args : List Value) : Run α := do
  let id ← newObject ⟨.known name, args, []⟩
  throw (.raised (.object id))

end Run

/-! ## Faults -/

/-- What goes wrong when a source is run. -/
inductive Fault
  | unbound (name : String)
  | unboundLocal (name : String)
  | unboundFree (name : String)
  | noModule (name : String)
  | notPackage (name top : String)
  | cannotImport (name module place : String)
  | divisionByZero (operation : String)
  | outOfRange (type : String)
  | noKey (key : Value)
  | noAttribute (owner name : String)
  | wrongType (message : String)
  | wrongValue (message : String)
  | tooLong
  | tooDeep
  | nothingToRaise
  | wrongText
  deriving Repr

namespace Fault

/-- The class of the exception. -/
def kind : Fault → String
  | .unbound _ => "NameError"
  | .unboundLocal _ => "UnboundLocalError"
  | .unboundFree _ => "NameError"
  | .noModule _ => "ModuleNotFoundError"
  | .notPackage _ _ => "ModuleNotFoundError"
  | .cannotImport _ _ _ => "ImportError"
  | .divisionByZero _ => "ZeroDivisionError"
  | .outOfRange _ => "IndexError"
  | .noKey _ => "KeyError"
  | .noAttribute _ _ => "AttributeError"
  | .wrongType _ => "TypeError"
  | .wrongValue _ => "ValueError"
  | .tooLong => "ValueError"
  | .tooDeep => "RecursionError"
  | .nothingToRaise => "RuntimeError"
  | .wrongText => "SyntaxError"

/-- What the exception is made with: its wording, or the key that is missing. -/
def argument : Fault → Value
  | .unbound name => .text s!"name '{name}' is not defined"
  | .unboundLocal name =>
    .text s!"cannot access local variable '{name}' where it is not associated with a value"
  | .unboundFree name =>
    .text (s!"cannot access free variable '{name}' where it is not associated with a value in " ++
      "enclosing scope")
  | .noModule name => .text s!"No module named '{name}'"
  | .notPackage name top => .text s!"No module named '{name}'; '{top}' is not a package"
  | .cannotImport name module place =>
    .text s!"cannot import name '{name}' from '{module}' ({place})"
  | .divisionByZero operation => .text s!"{operation} by zero"
  | .outOfRange type => .text s!"{type} index out of range"
  | .noKey key => key
  | .noAttribute owner name => .text s!"{owner} has no attribute '{name}'"
  | .wrongType message => .text message
  | .wrongValue message => .text message
  | .tooLong =>
    .text ("Exceeds the limit (4300 digits) for integer string conversion; use " ++
      "sys.set_int_max_str_digits() to increase the limit")
  | .tooDeep => .text "maximum recursion depth exceeded"
  | .nothingToRaise => .text "No active exception to reraise"
  | .wrongText => .text "invalid syntax"

end Fault

/-- Raises the exception of a fault. -/
def Run.fail {α : Type} (f : Fault) : Run α :=
  Run.raiseWith f.kind [f.argument]

end Codebook.Live
