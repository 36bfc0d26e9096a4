import Codebook.Live.Attribute
import Codebook.Source.Scope
import Codebook.Text.Identifier

/-!
# Making classes

What the bases of a class stand for, the checks on them, and the class that comes out of the
variables of a body. A base can be a type with arguments, which stands for its class and makes the
new class generic.
-/

namespace Codebook.Live

open Source Text

/-! ## Bases -/

/-- One of the bases after a form makes the new class generic already. -/
def bringsGeneric : List Value → Run Bool
  | [] => return false
  | .form "Any" none :: rest => bringsGeneric rest
  | .form _ _ :: _ => return true
  | .cls c :: rest => do
    if (← get).isDerived c (.known "Generic") then return true else bringsGeneric rest
  | _ => Run.fail (.wrongType "issubclass() arg 1 must be a class")

/-- What a base stands for among all bases. A form brings its class, unless that is a base itself,
and the class of generic types, unless a base after it does. -/
def baseEntries (all : List Value) (v : Value) : Run (List Value) :=
  match v with
  | .generic c _ => return [.cls c]
  | .form "Any" none => return [.cls (.known "Any")]
  | .form name _ => do
    let some c := formOrigin? name
      | Run.fail (.wrongType ("Cannot subclass " ++ (← get).repr v))
    let own : List Value :=
      if among all (.cls (.known c)) then [] else [.cls (.known c)]
    if ← bringsGeneric (all.dropWhile fun b => !b.same v).tail then return own
    else return own ++ [.cls (.known "Generic")]
  | v => return [v]

/-- The class of the class that is made of the given bases: the one that is derived from those of all
bases. -/
def metaclassOf (first : ClassRef) (bases : List Value) : Run ClassRef :=
  bases.foldlM (fun winner b => do
    let s ← get
    let c := s.classOf b
    if s.isDerived winner c then return winner
    else if s.isDerived c winner then return c
    else Run.fail (.wrongType ("metaclass conflict: the metaclass of a derived class must be a " ++
      "(non-strict) subclass of the metaclasses of all its bases"))) first

/-- The first class that stands twice among the bases. -/
def repeatedBase? : List ClassRef → Option ClassRef
  | [] => none
  | c :: cs => if cs.contains c then some c else repeatedBase? cs

/-- Checks the bases of a class and gives its order without the class itself. -/
def orderFrom (bases : List ClassRef) : Run (List ClassRef) := do
  let s ← get
  match bases.find? fun c => !Store.isOpen c with
  | some c =>
    Run.fail (.wrongType ("type '" ++ s.className c ++ "' is not an acceptable base type"))
  | none =>
    unless s.layoutsAgree bases do
      Run.fail (.wrongType "multiple bases have instance lay-out conflict")
    match repeatedBase? bases with
    | some c => Run.fail (.wrongType ("duplicate base class " ++ s.className c))
    | none =>
      match merge ((bases.map s.order) ++ [bases]) with
      | some order => return order
      | none =>
        Run.fail (.wrongType
          ("Cannot create a consistent method resolution\norder (MRO) for bases " ++
            ", ".intercalate (bases.map s.className)))

/-! ## Slots -/

/-- The classes whose objects differ in size, so that no names can be added to them. -/
def unevenLayouts : List String := ["int", "tuple", "bytes", "type"]

/-- The names of the attributes that objects of a class are limited to, checked. A name may not be
that of a variable of the class. -/
def slotNames (name layout : String) (vars : Table) : Value → Run (List String)
  | .text t => check [.text t]
  | v => do check (← iterate v)
where
  /-- Checks the names one by one. -/
  check (items : List Value) : Run (List String) := do
    if !items.isEmpty && unevenLayouts.contains layout then
      Run.fail (.wrongType ("nonempty __slots__ not supported for subtype of '" ++ layout ++ "'"))
    let names ← items.mapM fun
      | .text t =>
        if isIdentifier t.toList then pure t
        else Run.fail (.wrongType "__slots__ must be identifiers")
      | v => do
        let type := (← get).typeName v
        Run.fail (.wrongType ("__slots__ items must be strings, not '" ++ type ++ "'"))
    let kept := (names.filter fun n => n != "__dict__" && n != "__weakref__").map
      (mangle (some name))
    match kept.find? fun n => n != "__qualname__" && (vars.get? n).isSome with
    | some n => Run.fail (.wrongValue (quoted n ++ " in __slots__ conflicts with class variable"))
    | none => return kept

/-! ## Classes -/

/-- The functions of a class that are called on the class or on nothing, whatever their decorators.
-/
def adjustSpecial (vars : Table) : Table :=
  vars.map fun
    | ("__new__", .function f) => ("__new__", .staticMethod (.function f))
    | ("__init_subclass__", .function f) => ("__init_subclass__", .classMethod (.function f))
    | ("__class_getitem__", .function f) => ("__class_getitem__", .classMethod (.function f))
    | i => i

/-- Tells the objects among the variables of a class their names. -/
def nameMembers (m : Machine) (c : ClassRef) (vars : Table) : Run Unit :=
  vars.forM fun
    | (name, .object id) => do
      let s ← get
      match s.findAttribute? (s.object id).cls "__set_name__" with
      | some (_, .function f) => do
        let _ ← m.call (.bound (.object id) f) [.cls c, .text name] []
      | _ => pure ()
    | _ => pure ()

/-- Tells the bases of a class about it, with the arguments by name of its definition. -/
def tellBases (m : Machine) (c : ClassRef) (keywords : Table) : Run Unit := do
  let s ← get
  match (s.order c).tail.findSome? fun d => (s.classVars d).get? "__init_subclass__" with
  | some f => do
    let _ ← m.call (← fromClass c f) [] keywords
  | none =>
    unless keywords.isEmpty do
      Run.fail (.wrongType (s.className c ++ ".__init_subclass__() takes no keyword arguments"))

/-- Makes a class out of the variables of its body. -/
def makeClass (m : Machine) (name : String) (bases : List ClassRef) (vars : Table)
    (keywords : Table) : Run Value := do
  let bases := if bases.isEmpty then [.known "object"] else bases
  let order ← orderFrom bases
  let layout := (← get).widestLayout bases
  let path ← match vars.get? "__qualname__" with
    | some (.text p) => pure p
    | some v => do
      let type := (← get).typeName v
      Run.fail (.wrongType ("type __qualname__ must be a str, not " ++ type))
    | none => pure name
  let slots ← match vars.get? "__slots__" with
    | some v => slotNames name ((← get).className layout) vars v
    | none => pure []
  let vars := adjustSpecial (vars.erase "__qualname__")
  let vars := if (vars.get? "__doc__").isSome then vars else vars.put "__doc__" .none
  let id ← Run.newClass fun id =>
    ⟨name, path, bases, .defined id :: order, if slots.isEmpty then layout else .defined id, vars⟩
  nameMembers m (.defined id) vars
  tellBases m (.defined id) keywords
  return .cls (.defined id)

/-- Makes a class by the class that it is to be an object of. A class of classes that has anything of
its own is not followed. -/
def makeBy (m : Machine) (maker : Value) (name : String) (entries : List Value) (vars : Table)
    (keywords : Table) : Run Value := do
  let s ← get
  match maker with
  | .cls c =>
    if s.isDerived c (.known "type") then
      let isPlain := ((s.order c).flatMap fun d => s.classVars d).all fun i =>
        i.1 == "__module__" || i.1 == "__doc__"
      unless isPlain do Run.beyond
      let refs ← entries.mapM fun
        | .cls c => pure c
        | _ => Run.beyond
      makeClass m name refs vars keywords
    else byCall
  | _ => byCall
where
  /-- Calls what makes the class. -/
  byCall : Run Value :=
    m.call maker [.text name, .tuple entries, .dict (vars.map fun i => (.text i.1, i.2))] keywords

end Codebook.Live
