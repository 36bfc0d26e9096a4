import Codebook.Live.Names
import Codebook.Live.Operation

/-!
# Attributes

Reading, setting and deleting the attributes of values. An attribute of an object is its own or
comes from the first class in the order of its class that has it; a function found there is bound to
the object.
-/

namespace Codebook.Live

open Source

/-- What calls values. -/
structure Machine where
  call : (f : Value) → (args : List Value) → (keywords : Table) → Run Value

/-! ## Modules that need no file -/

/-- The values of the modules that need no file. -/
def moduleTable : List (String × Table) := [
  ("typing", formNames.map fun n => (n, .form n none)),
  ("os", [("path", .module (.known "posixpath")), ("sep", .text "/"), ("name", .text "posix")]),
  ("posixpath", [("join", .native (.named "join")), ("sep", .text "/")]),
  ("textwrap", [("dedent", .native (.named "dedent"))]),
  ("collections", [("OrderedDict", .cls (.known "OrderedDict"))]),
  ("functools", [("wraps", .native .wraps)]),
  ("sys", [("exit", .native .exit)]),
  ("__future__", [("annotations", .native (.named "annotations")),
    ("division", .native (.named "division")),
    ("print_function", .native (.named "print_function")),
    ("absolute_import", .native (.named "absolute_import"))])]

/-- An attribute of a module that needs no file. -/
def knownModuleAttribute (module name : String) : Run Value :=
  match ((moduleTable.lookup module).getD []).get? name with
  | some v => return v
  | none => if name == "__name__" then return .text module else Run.beyond

/-! ## Reading -/

/-- There is no such attribute. -/
def noAttribute {α : Type} (v : Value) (name : String) : Run α := do
  let s ← get
  let owner := match v with
    | .cls c => "type object '" ++ s.className c ++ "'"
    | .module (.known m) => "module '" ++ m ++ "'"
    | .module (.loaded f) =>
      match s.moduleName? f with
      | some m => "module '" ++ m ++ "'"
      | none => "module"
    | v => "'" ++ s.typeName v ++ "' object"
  Run.fail (.noAttribute owner name)

/-- The classes in an order that are not the last one and bring attributes that no table has. -/
def hasHidden (s : Store) (c : ClassRef) (name : String) : Bool :=
  (s.order c).any fun
    | .known "object" => false
    | .known k =>
      if s.isException (.known k) then
        name.startsWith "__" || ((valueAttributes.lookup "BaseException").getD []).contains name
      else true
    | .defined _ => false

/-- A value found in a class, seen from the class. -/
def fromClass (c : ClassRef) : Value → Run Value
  | .staticMethod f => return f
  | .classMethod (.function id) => return .bound (.cls c) id
  | .classMethod _ => Run.beyond
  | v => return v

/-- A value found in a class, seen from an object. -/
def fromObject (m : Machine) (self : Value) (c : ClassRef) : Value → Run Value
  | .function id => return .bound self id
  | .property get => m.call get [self] []
  | v => fromClass c v

/-- An attribute of a class. -/
def classAttribute (c : ClassRef) (name : String) : Run Value := do
  let s ← get
  match name with
  | "__name__" => return .text (s.className c)
  | "__qualname__" => return .text (s.classPath c)
  | "__doc__" => return s.classDoc c
  | "__module__" => return s.classHome c
  | "__mro__" => return .tuple ((s.order c).map .cls)
  | "__class__" => return .cls (.known "type")
  | "__dict__" => Run.beyond
  | "__bases__" =>
    match c with
    | .defined id => return .tuple ((s.classObject id).bases.map .cls)
    | .known k => return .tuple (((knownClass? k).elim [] (·.bases)).map fun b => .cls (.known b))
  | _ =>
    match s.findAttribute? c name with
    | some (_, v) => fromClass c v
    | none =>
      if hasHidden s c name then Run.beyond
      else if (objectMethods.lookup name).isSome then return .native (.objectMethod name)
      else noAttribute (.cls c) name

/-- An attribute of a function. -/
def functionAttribute (id : Nat) (name : String) : Run Value := do
  let f := (← get).function id
  match name with
  | "__name__" => return .text f.name
  | "__qualname__" => return .text f.path
  | "__doc__" => return f.doc
  | "__module__" => return f.home
  | "__annotations__" => return .dict (f.hints.map fun h => (.text h.1, h.2))
  | "__class__" => return .cls (.known "function")
  | "__defaults__" =>
    let ps := f.params.filter fun p => p.kind == .positional || p.kind == .positionalOnly
    let ds := ps.filterMap (·.default)
    return if ds.isEmpty then .none else .tuple ds
  | "__dict__" => return .dict (f.vars.map fun h => (.text h.1, h.2))
  | _ =>
    match f.vars.get? name with
    | some v => return v
    | none =>
      if name.startsWith "__" && name.endsWith "__" && name != "__wrapped__" then Run.beyond
      else noAttribute (.function id) name

/-- An attribute of a text that can be called. -/
def textMethod? : String → Option Native
  | "strip" => some .strip
  | "lower" => some .lower
  | "upper" => some .upper
  | "join" => some .join
  | "startswith" => some .startsWith
  | "endswith" => some .endsWith
  | _ => none

/-- An attribute of a value without attributes of its own. -/
def plainAttribute (v : Value) (name : String) : Run Value := do
  let s ← get
  if name == "__class__" then return .cls (s.classOf v)
  else if name == "__doc__" then
    return s.classDoc (s.classOf v)
  else if name.startsWith "__" && name.endsWith "__" then Run.beyond
  else
    match valueAttributes.lookup (s.typeName v) with
    | some names => if names.contains name then Run.beyond else noAttribute v name
    | none => if s.typeName v == "NoneType" then noAttribute v name else Run.beyond

/-- An attribute of a value. -/
def getAttribute (m : Machine) (v : Value) (name : String) : Run Value := do
  let s ← get
  match v with
  | .cls c => classAttribute c name
  | .function id => functionAttribute id name
  | .bound self id =>
    if name == "__self__" then return self
    else if name == "__func__" then return .function id
    else functionAttribute id name
  | .module (.known k) => knownModuleAttribute k name
  | .module (.loaded f) =>
    let vars := (s.frame f).vars
    match vars.get? name, vars.get? "__getattr__" with
    | some w, _ => return w
    | none, given =>
      match name, given with
      | "__dict__", _ => Run.beyond
      | "__class__", _ => return .cls (.known "module")
      | "__doc__", _ => return s.classDoc (.known "module")
      | _, some g => m.call g [.text name] []
      | _, none => noAttribute v name
  | .object id =>
    let o := s.object id
    match o.vars.get? name with
    | some w => return w
    | none =>
      if name == "__class__" then return .cls o.cls
      else if name == "args" && s.isException o.cls then return .tuple o.args
      else
        match s.findAttribute? o.cls name with
        | some (_, w) => fromObject m v o.cls w
        | none =>
          if hasHidden s o.cls name || (objectMethods.lookup name).isSome || name == "__dict__" then
            Run.beyond
          else noAttribute v name
  | .property _ =>
    if name == "setter" || name == "deleter" || name == "getter" then
      return .given .propertyPart (if name == "getter" then .none else v)
    else if name == "fget" then
      match v with
      | .property get => return get
      | _ => Run.beyond
    else Run.beyond
  | .staticMethod f =>
    if name == "__func__" || name == "__wrapped__" then return f else Run.beyond
  | .classMethod f =>
    if name == "__func__" || name == "__wrapped__" then return f else Run.beyond
  | .text _ =>
    match textMethod? name with
    | some f => return .given f v
    | none => plainAttribute v name
  | v => plainAttribute v name

/-! ## Setting and deleting -/

/-- A name can only be a text. -/
def needText (what : String) (v : Value) (use : String → Run Unit) : Run Unit :=
  match v with
  | .text s => use s
  | _ => Run.fail (.wrongType (what ++ " must be set to a string object"))

/-- Sets an attribute of a function. -/
def setFunctionAttribute (id : Nat) (name : String) (v : Value) : Run Unit :=
  match name with
  | "__name__" => needText "__name__" v fun s => Run.setFunction id fun f => { f with name := s }
  | "__qualname__" =>
    needText "__qualname__" v fun s => Run.setFunction id fun f => { f with path := s }
  | "__doc__" => Run.setFunction id fun f => { f with doc := v }
  | "__module__" => Run.setFunction id fun f => { f with home := v }
  | "__annotations__" =>
    match v with
    | .dict items =>
      Run.setFunction id fun f => { f with hints := items.filterMap fun
        | (.text k, w) => some (k, w)
        | _ => none }
    | .none => Run.setFunction id fun f => { f with hints := [] }
    | _ => Run.fail (.wrongType "__annotations__ must be set to a dict object")
  | "__defaults__" => Run.beyond
  | "__kwdefaults__" => Run.beyond
  | "__code__" => Run.beyond
  | "__dict__" => Run.beyond
  | _ => Run.setFunction id fun f => { f with vars := f.vars.put name v }

/-- Sets an attribute. -/
def setAttribute (v : Value) (name : String) (w : Value) : Run Unit := do
  let s ← get
  match v with
  | .module (.loaded f) => Run.setVar f name w
  | .module (.known _) => return
  | .function id => setFunctionAttribute id name w
  | .cls (.known k) =>
    Run.fail (.wrongType ("cannot set '" ++ name ++ "' attribute of immutable type '" ++ k ++ "'"))
  | .cls (.defined id) =>
    match name, w with
    | "__name__", .text t => Run.setClass id fun c => { c with name := t }
    | "__name__", w =>
      Run.fail (.wrongType ("can only assign string to " ++ s.className (.defined id) ++
        ".__name__, not '" ++ s.typeName w ++ "'"))
    | "__qualname__", .text t => Run.setClass id fun c => { c with path := t }
    | "__qualname__", w =>
      Run.fail (.wrongType ("can only assign string to " ++ s.className (.defined id) ++
        ".__qualname__, not '" ++ s.typeName w ++ "'"))
    | "__bases__", _ => Run.beyond
    | _, _ => Run.setClass id fun c => { c with vars := c.vars.put name w }
  | .object id =>
    match s.findAttribute? (s.object id).cls name with
    | some (_, .property _) => Run.beyond
    | _ => Run.setObject id fun o => { o with vars := o.vars.put name w }
  | .property _ => Run.beyond
  | .staticMethod _ => Run.beyond
  | .classMethod _ => Run.beyond
  | v => noAttribute v name

/-- Parameters without the defaults of some of them. -/
def withoutDefaults (which : ParameterKind → Bool) (ps : List (Parameter Value)) :
    List (Parameter Value) :=
  ps.map fun p => if which p.kind then { p with default := none } else p

/-- Deletes an attribute of a function. What every function has is emptied or cannot be deleted. -/
def deleteFunctionAttribute (id : Nat) (name : String) : Run Unit := do
  match name with
  | "__doc__" => Run.setFunction id fun f => { f with doc := .none }
  | "__module__" => Run.setFunction id fun f => { f with home := .none }
  | "__annotations__" => Run.setFunction id fun f => { f with hints := [] }
  | "__defaults__" =>
    Run.setFunction id fun f => { f with params := withoutDefaults (· != .keywordOnly) f.params }
  | "__kwdefaults__" =>
    Run.setFunction id fun f => { f with params := withoutDefaults (· == .keywordOnly) f.params }
  | "__name__" => Run.fail (.wrongType "__name__ must be set to a string object")
  | "__qualname__" => Run.fail (.wrongType "__qualname__ must be set to a string object")
  | "__code__" => Run.fail (.wrongType "__code__ must be set to a code object")
  | "__dict__" => Run.fail (.wrongType "cannot delete __dict__")
  | _ =>
    if readOnly.contains name then Run.raiseWith "AttributeError" [.text "readonly attribute"]
    else if (((← get).function id).vars.get? name).isSome then
      Run.setFunction id fun f => { f with vars := f.vars.erase name }
    else Run.raiseWith "AttributeError" [.text name]
where
  /-- The attributes that nobody changes. -/
  readOnly : List String := ["__globals__", "__closure__", "__builtins__"]

/-- Deletes an attribute. -/
def deleteAttribute (v : Value) (name : String) : Run Unit := do
  let s ← get
  match v with
  | .module (.loaded f) =>
    if ((s.frame f).vars.get? name).isSome then
      Run.setFrame f fun x => { x with vars := x.vars.erase name }
    else noAttribute v name
  | .function id => deleteFunctionAttribute id name
  | .cls (.defined id) =>
    if ["__name__", "__qualname__", "__bases__", "__module__", "__doc__"].contains name then
      Run.fail (.wrongType ("cannot delete '" ++ name ++ "' attribute of immutable type '" ++
        s.className (.defined id) ++ "'"))
    else if ((s.classObject id).vars.get? name).isSome then
      Run.setClass id fun c => { c with vars := c.vars.erase name }
    else Run.raiseWith "AttributeError" [.text name]
  | .object id =>
    if ((s.object id).vars.get? name).isSome then
      Run.setObject id fun o => { o with vars := o.vars.erase name }
    else noAttribute v name
  | _ => Run.beyond

end Codebook.Live
