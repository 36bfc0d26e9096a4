import Codebook.Live.Attribute
import Codebook.Source.Scope

/-!
# Variables

Where a name is looked up and where it is bound: in the body that runs, in the calls around its
definition, in the module, and among the names that need no import.
-/

namespace Codebook.Live

open Source

/-! ## Names -/

/-- The functions that can be called without an import. -/
def nativeFunction (name : String) : Native :=
  match name with
  | "print" => .print
  | "repr" => .repr
  | "len" => .len
  | "isinstance" => .isinstance
  | "issubclass" => .issubclass
  | "callable" => .callable
  | "getattr" => .getattr
  | "setattr" => .setattr
  | "hasattr" => .hasattr
  | name => .named name

/-- The value of a name that needs no import. -/
def builtin? (name : String) : Option Value :=
  if isClassName name then some (.cls (.known name))
  else
    match classSynonyms.lookup name with
    | some c => some (.cls (.known c))
    | none =>
      if functionNames.contains name then some (.native (nativeFunction name))
      else
        match name with
        | "None" => some .none
        | "True" => some (.bool true)
        | "False" => some (.bool false)
        | "NotImplemented" => some .notImplemented
        | "Ellipsis" => some .ellipsis
        | "__debug__" => some (.bool true)
        | "__name__" => some (.text "builtins")
        | "exit" => some (.native .exit)
        | "quit" => some (.native .exit)
        | "help" => some (.native (.named "help"))
        | "copyright" => some (.native (.named "copyright"))
        | "credits" => some (.native (.named "credits"))
        | "license" => some (.native (.named "license"))
        | _ => none

/-! ## Looking up -/

/-- The value of a name in a module. -/
def lookupGlobal (globals : Nat) (name : String) : Run Value := do
  match (← get).frame globals |>.vars.get? name with
  | some v => return v
  | none =>
    match builtin? name with
    | some v => return v
    | none => Run.fail (.unbound name)

/-- The innermost call around a body to which a name belongs. -/
def Store.owner? (s : Store) (f : Frame) (name : String) : Option Nat :=
  f.outer.find? fun o => (s.frame o).own.contains name

/-- The value of a name that does not belong to the body itself. -/
def lookupFree (f : Frame) (name : String) : Run Value := do
  let s ← get
  match s.owner? f name with
  | some o =>
    match (s.frame o).vars.get? name with
    | some v => return v
    | none => Run.fail (.unboundFree name)
  | none => lookupGlobal f.globals name

/-- The value of a name in a running body. -/
def lookup (frame : Nat) (name : String) : Run Value := do
  let f := (← get).frame frame
  let name := mangle f.className name
  if f.declared.contains name then lookupGlobal f.globals name
  else
    match f.kind with
    | .module => lookupGlobal frame name
    | .classBody =>
      match f.vars.get? name with
      | some v => return v
      | none => if f.own.contains name then lookupGlobal f.globals name else lookupFree f name
    | .call =>
      if f.own.contains name then
        match f.vars.get? name with
        | some v => return v
        | none => Run.fail (.unboundLocal name)
      else lookupFree f name

/-! ## Binding -/

/-- Where a name is bound by a running body. -/
def Store.home (s : Store) (frame : Nat) (name : String) : Nat :=
  let f := s.frame frame
  if f.declared.contains name then f.globals
  else if f.own.contains name || f.kind == .module then frame
  else (s.owner? f name).getD (if f.kind == .call then f.globals else frame)

/-- Binds a name. -/
def bindName (frame : Nat) (name : String) (v : Value) : Run Unit := do
  let s ← get
  let name := mangle (s.frame frame).className name
  Run.setVar (s.home frame name) name v

/-- Takes a name away. -/
def unbindName (frame : Nat) (name : String) : Run Unit := do
  let s ← get
  let name := mangle (s.frame frame).className name
  let home := s.home frame name
  if ((s.frame home).vars.get? name).isSome then
    Run.setFrame home fun f => { f with vars := f.vars.erase name }
  else if (s.frame home).kind == .call then Run.fail (.unboundLocal name)
  else Run.fail (.unbound name)

/-- Takes a name away if it is bound. -/
def releaseName (frame : Nat) (name : String) : Run Unit := do
  let s ← get
  let name := mangle (s.frame frame).className name
  Run.setFrame (s.home frame name) fun f => { f with vars := f.vars.erase name }

/-- The calls around what is defined in a body. -/
def Store.around (s : Store) (frame : Nat) : List Nat :=
  let f := s.frame frame
  if f.kind == .call then frame :: f.outer else f.outer

/-- The full name of what a body defines. -/
def Store.pathOf (s : Store) (frame : Nat) (name : String) : String :=
  let f := s.frame frame
  if f.declared.contains name then name else f.path ++ name

end Codebook.Live
