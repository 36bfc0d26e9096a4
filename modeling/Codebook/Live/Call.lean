import Codebook.Live.Attribute
import Codebook.Text.Integer
import Codebook.Text.Lower

/-!
# Calls

How arguments reach parameters, and what happens when a value that is not a defined function is
called: a class makes an object, and functions that need no definition do their work.
-/

namespace Codebook.Live

open Source Text

/-! ## Arguments and parameters -/

/-- Names in a complaint: `'a'`, `'a' and 'b'`, `'a', 'b', and 'c'`. -/
def listed : List String → String
  | [] => ""
  | [a] => quotedName a
  | [a, b] => quotedName a ++ " and " ++ quotedName b
  | names =>
    ", ".intercalate (names.dropLast.map quotedName) ++ ", and " ++
      quotedName (names.getLast?.getD "")
where
  /-- A name in quotes. -/
  quotedName (n : String) : String := "'" ++ n ++ "'"

/-- A word for one or for several things. -/
def plural (n : Nat) (word : String) : String :=
  if n == 1 then word else word ++ "s"

/-- Parameters that take arguments by position. -/
def positionalParams (ps : List (Parameter Value)) : List (Parameter Value) :=
  ps.filter fun p => p.kind == .positionalOnly || p.kind == .positional

/-- The complaint about too many arguments by position. -/
def tooMany (path : String) (ps : List (Parameter Value)) (given : Nat) (named : List String) :
    Fault :=
  let slots := positionalParams ps
  let most := slots.length
  let least := (slots.filter (·.default.isNone)).length
  let keywordOnly := ((ps.filter (·.kind == .keywordOnly)).filter fun p => named.contains p.name)
  let takes := if least < most then s!"from {least} to {most}" else toString most
  let extra := if keywordOnly.isEmpty then ""
    else " positional " ++ plural given "argument" ++ " (and " ++ toString keywordOnly.length ++
      " keyword-only " ++ plural keywordOnly.length "argument" ++ ")"
  let was := if given == 1 && keywordOnly.isEmpty then "was" else "were"
  .wrongType (path ++ "() takes " ++ takes ++ " positional " ++
    plural (if least < most then 2 else most) "argument" ++ " but " ++ toString given ++ extra ++
    " " ++ was ++ " given")

/-- The arguments by name that have no parameter, once those that have one are placed. -/
def placeKeywords (path : String) (ps : List (Parameter Value)) :
    Table → Table → Table → Run (Table × Table)
  | placed, extra, [] => return (placed, extra)
  | placed, extra, (k, v) :: rest => do
    let takes := fun (p : Parameter Value) =>
      p.name == k && (p.kind == .positional || p.kind == .keywordOnly)
    if ps.any takes then
      if (placed.get? k).isSome then
        Run.fail (.wrongType (path ++ "() got multiple values for argument '" ++ k ++ "'"))
      else placeKeywords path ps (placed.put k v) extra rest
    else if ps.any (·.kind == .keywords) then placeKeywords path ps placed (extra.put k v) rest
    else if ps.any fun p => p.name == k && p.kind == .positionalOnly then
      Run.fail (.wrongType (path ++ "() got some positional-only arguments passed as keyword " ++
        "arguments: '" ++ k ++ "'"))
    else Run.fail (.wrongType (path ++ "() got an unexpected keyword argument '" ++ k ++ "'"))

/-- The variables that the parameters of a function start with. -/
def bindArguments (f : FunctionObject) (args : List Value) (keywords : Table) : Run Table := do
  let slots := positionalParams f.params
  let first : Table := (slots.zip args).map fun (p, v) => (p.name, v)
  let rest := args.drop slots.length
  let variadic? := f.params.find? (·.kind == .variadic)
  let (placed, extra) ← placeKeywords f.path f.params first [] keywords
  if !rest.isEmpty && variadic?.isNone then
    Run.fail (tooMany f.path f.params args.length (keywords.map (·.1)))
  let missing := fun (p : Parameter Value) => p.default.isNone && (placed.get? p.name).isNone
  complain "positional" (slots.filter missing)
  complain "keyword-only" ((f.params.filter (·.kind == .keywordOnly)).filter missing)
  return f.params.foldl (fun t p =>
    match p.kind, p.default with
    | .variadic, _ => t.put p.name (.tuple rest)
    | .keywords, _ => t.put p.name (.dict (extra.map fun i => (.text i.1, i.2)))
    | _, some d => if (t.get? p.name).isSome then t else t.put p.name d
    | _, none => t) placed
where
  /-- Parameters without an argument. -/
  complain (kind : String) (missing : List (Parameter Value)) : Run Unit :=
    if missing.isEmpty then pure ()
    else
      let n := missing.length
      Run.fail (.wrongType (f.path ++ "() missing " ++ toString n ++ " required " ++ kind ++ " " ++
        plural n "argument" ++ ": " ++ listed (missing.map (·.name))))

/-! ## Texts of values -/

/-- The text that a method of an object gives for it. -/
def ownText (m : Machine) (v : Value) (method : String) (f : Nat) : Run String := do
  match ← m.call (.bound v f) [] [] with
  | .text t => return t
  | w =>
    let name := (← get).typeName w
    Run.fail (.wrongType (method ++ " returned non-string (type " ++ name ++ ")"))

/-- The texts of objects by their own methods, and of exceptions by their classes and what they were
made with; `inner` writes the latter. -/
def objectTextOf (m : Machine) (inner : Value → Run String) (id : Nat) : Run String := do
  let s ← get
  let o := s.object id
  match s.findAttribute? o.cls "__repr__" with
  | some (_, .function f) => ownText m (.object id) "__repr__" f
  | some _ => Run.beyond
  | none =>
    unless s.isException o.cls do Run.beyond
    match ← o.args.mapM inner with
    | [a] => return s.className o.cls ++ "(" ++ a ++ ")"
    | args => return s.className o.cls ++ tupleText args

/-- A value in a source's own notation. What an exception was made with was there before it, so at
most `fuel` objects are inside each other. -/
def reprTo (m : Machine) : (fuel : Nat) → Value → Run String
  | 0, _ => Run.fail .tooDeep
  | n + 1, v => do
    let parts := v.shown
    unless parts.all Value.hasFixedText do Run.beyond
    unless parts.all Value.isShort do Run.fail .tooLong
    let ids := parts.filterMap fun
      | .object id => some id
      | _ => none
    let texts ← ids.mapM fun id => do return (id, ← objectTextOf m (reprTo m n) id)
    let s ← get
    let usual := outsideTo s (s.objects.size + 2)
    return reprWith s { usual with object := fun id => (texts.lookup id).getD "" } v

/-- A value in a source's own notation. -/
def reprOf (m : Machine) (v : Value) : Run String := do
  reprTo m ((← get).objects.size + 1) v

/-- A value for a reader: a text as it is, an object by its own method, and an exception by what it
was made with. -/
def textTo (m : Machine) : (fuel : Nat) → Value → Run String
  | 0, _ => Run.fail .tooDeep
  | n + 1, v => do
    let s ← get
    match v with
    | .text t => return t
    | .object id =>
      let o := s.object id
      match s.findAttribute? o.cls "__str__" with
      | some (_, .function f) => ownText m v "__str__" f
      | some _ => Run.beyond
      | none =>
        if s.isException o.cls then
          match o.args with
          | [] => return ""
          | [a] => if s.isDerived o.cls (.known "KeyError") then reprOf m a else textTo m n a
          | args => reprOf m (.tuple args)
        else reprOf m v
    | v => reprOf m v

/-- A value for a reader. -/
def textOf (m : Machine) (v : Value) : Run String := do
  textTo m ((← get).objects.size + 1) v

/-! ## Making objects -/

/-- The value is called with too many arguments. -/
def takesNo (name : String) : Run Value :=
  Run.fail (.wrongType (name ++ "() takes no arguments"))

/-- Makes a value of a class that needs no definition. -/
def makeKnown (m : Machine) (name : String) (args : List Value) (keywords : Table) : Run Value := do
  let s ← get
  if s.isException (.known name) then
    if keywords.isEmpty then
      let id ← Run.newObject ⟨.known name, args, []⟩
      return .object id
    else Run.fail (.wrongType (name ++ "() takes no keyword arguments"))
  else
    match name, args, keywords with
    | "object", [], [] => return .object (← Run.newObject ⟨.known name, [], []⟩)
    | "str", [], [] => return .text ""
    | "str", [v], [] => return .text (← textOf m v)
    | "int", [], [] => return .int 0
    | "int", [v], [] =>
      match v, v.int? with
      | _, some n => return .int n
      | .text t, none =>
        match integer? t.toList with
        | some n => return .int n
        | none =>
          Run.fail (.wrongValue ("invalid literal for int() with base 10: " ++ quoted t))
      | _, none => Run.beyond
    | "float", [v], [] =>
      match v.quantity? with
      | some (.complex _) => Run.beyond
      | some q => return .float (← q.toFloat)
      | none => Run.beyond
    | "bool", [], [] => return .bool false
    | "bool", [v], [] => return .bool v.isTrue
    | "list", [], [] => return .list []
    | "list", [v], [] => return .list (← iterate v)
    | "tuple", [], [] => return .tuple []
    | "tuple", [v], [] => return .tuple (← iterate v)
    | "set", [], [] => return .set []
    | "set", [v], [] => return .set (setOrder (← iterate v))
    | "dict", [], ks => return .dict (ks.map fun i => (.text i.1, i.2))
    | "dict", [.dict items], ks =>
      return .dict (ks.foldl (fun d i => putItem (.text i.1) i.2 d) items)
    | "type", [v], [] => return .cls (s.classOf v)
    | "staticmethod", [f], [] => return .staticMethod f
    | "classmethod", [f], [] => return .classMethod f
    | "property", [], [] => return .property .none
    | "property", f :: _, _ => return .property f
    | "property", [], ks => return .property ((Table.get? ks "fget").getD .none)
    | _, _, _ => Run.beyond

/-- Makes an object of a defined class. -/
def makeObject (m : Machine) (c : ClassRef) (args : List Value) (keywords : Table) : Run Value := do
  let s ← get
  let plain := (s.order c).all fun
    | .known k => k == "object" || s.isException (.known k)
    | .defined _ => true
  if !plain || (s.findAttribute? c "__new__").isSome then Run.beyond
  else
    let id ← Run.newObject ⟨c, if s.isException c then args else [], []⟩
    match s.findAttribute? c "__init__" with
    | some (_, .function f) =>
      match ← m.call (.bound (.object id) f) args keywords with
      | .none => return .object id
      | v =>
        Run.fail (.wrongType ("__init__() should return None, not '" ++ s.typeName v ++ "'"))
    | some _ => Run.beyond
    | none =>
      if s.isException c || (args.isEmpty && keywords.isEmpty) then return .object id
      else takesNo (s.className c)

/-! ## Functions that need no definition -/

/-- The value can be called. -/
def Store.isCallable (s : Store) : Value → Bool
  | .function _ => true
  | .bound _ _ => true
  | .cls _ => true
  | .native _ => true
  | .given _ _ => true
  | .staticMethod _ => true
  | .form _ _ => true
  | .generic _ _ => true
  | .object id => (s.findAttribute? (s.object id).cls "__call__").isSome
  | _ => false

/-- The classes that a test for classes names. -/
def classList : Value → Run (List ClassRef)
  | .cls c => return [c]
  | .tuple items => items.mapM fun
    | .cls c => return c
    | _ => Run.beyond
  | .union _ => Run.beyond
  | _ =>
    Run.fail (.wrongType
      "isinstance() arg 2 must be a type, a tuple of types, or a union")

/-- Does something unless an attribute is missing. -/
def orMissing {α : Type} (r : Run α) (other : Run α) : Run α :=
  tryCatch r fun
    | .raised (.object id) => do
      if (← get).isDerived ((← get).object id).cls (.known "AttributeError") then other
      else throw (.raised (.object id))
    | e => throw e

/-- Gives a function the looks of the one that it stands for. -/
def dressAs (f g : Value) : Run Value := do
  let s ← get
  match f with
  | .function id =>
    let o := s.function id
    setAttribute g "__module__" o.home
    setAttribute g "__name__" (.text o.name)
    setAttribute g "__qualname__" (.text o.path)
    setAttribute g "__doc__" o.doc
    setAttribute g "__annotations__" (.dict (o.hints.map fun h => (.text h.1, h.2)))
    o.vars.forM fun (k, v) => setAttribute g k v
    setAttribute g "__wrapped__" f
    return g
  | .cls c =>
    setAttribute g "__module__" (s.classHome c)
    setAttribute g "__name__" (.text (s.className c))
    setAttribute g "__qualname__" (.text (s.classPath c))
    setAttribute g "__doc__" (s.classDoc c)
    setAttribute g "__wrapped__" f
    return g
  | _ => Run.beyond

/-- The number of items. -/
def lengthOf (v : Value) : Run Value :=
  match v with
  | .text s => return .int s.length
  | .bytes b => return .int b.length
  | .tuple items => return .int items.length
  | .list items => return .int items.length
  | .set items => return .int items.length
  | .dict items => return .int items.length
  | .object _ => Run.beyond
  | v => do
    let name := (← get).typeName v
    Run.fail (.wrongType ("object of type '" ++ name ++ "' has no len()"))

/-- Prints values with a blank between them and a new line after them, unless told otherwise. -/
def printValues (m : Machine) (args : List Value) (keywords : Table) : Run Value := do
  let texts ← args.mapM (textOf m)
  let part := fun (name : String) (usual : String) =>
    match Table.get? keywords name with
    | some (.text t) => t
    | _ => usual
  if (Table.get? keywords "file").isSome then Run.beyond
  Run.print ((part "sep" " ").intercalate texts ++ part "end" "\n")
  return .none

/-- Calls a function that needs no definition. -/
def callNative (m : Machine) (f : Native) (args : List Value) (keywords : Table) : Run Value := do
  let s ← get
  match f, args, keywords with
  | .print, args, ks => printValues m args ks
  | .repr, [v], [] => return .text (← reprOf m v)
  | .len, [v], [] => lengthOf v
  | .isinstance, [v, c], [] => return .bool ((← classList c).any (s.isInstance v))
  | .issubclass, [.cls c, d], [] =>
    return .bool ((← classList d).any fun d => d == .known "object" || s.isDerived c d)
  | .callable, [v], [] => return .bool (s.isCallable v)
  | .getattr, [v, .text name], [] => getAttribute m v name
  | .getattr, [v, .text name, other], [] => orMissing (getAttribute m v name) (return other)
  | .hasattr, [v, .text name], [] =>
    orMissing (do let _ ← getAttribute m v name; return .bool true) (return .bool false)
  | .setattr, [v, .text name, w], [] => do
    setAttribute v name w
    return .none
  | .exit, [], [] => Run.raiseWith "SystemExit" []
  | .exit, [.none], [] => Run.raiseWith "SystemExit" []
  | .exit, [v], [] => Run.raiseWith "SystemExit" [v]
  | .wraps, [f], [] => return .given .wrapWith f
  | _, _, _ => Run.beyond

/-- Calls a function whose first argument is given. -/
def callGiven (f : Native) (first : Value) (args : List Value) : Run Value :=
  match f, first, args with
  | .wrapWith, f, [g] => dressAs f g
  | .propertyPart, .none, [g] => return .property g
  | .propertyPart, p, [_] => return p
  | .strip, .text s, [] => return .text (trimmed s)
  | .lower, .text s, [] => return .text (lower s)
  | .upper, .text s, [] =>
    if s.toList.all (·.toNat < 128) then return .text s.toUpper else Run.beyond
  | .join, .text s, [v] => do
    let items ← iterate v
    let texts ← items.mapM fun
      | .text t => pure t
      | _ => Run.beyond
    return .text (s.intercalate texts)
  | .startsWith, .text s, [.text p] => return .bool (startsWith p.toList s.toList)
  | .endsWith, .text s, [.text p] => return .bool (endsWith p.toList s.toList)
  | _, _, _ => Run.beyond

/-- Calls a value; `run` runs a defined function with its variables. -/
def callValue (m : Machine) (run : Nat → Table → Run Value) (f : Value) (args : List Value)
    (keywords : Table) : Run Value := do
  let s ← get
  match f with
  | .function id => run id (← bindArguments (s.function id) args keywords)
  | .bound self id => run id (← bindArguments (s.function id) (self :: args) keywords)
  | .cls (.known name) => makeKnown m name args keywords
  | .cls c => makeObject m c args keywords
  | .native n => callNative m n args keywords
  | .given n first => if keywords.isEmpty then callGiven n first args else Run.beyond
  | .staticMethod g => m.call g args keywords
  | .generic c _ => m.call (.cls c) args keywords
  | .form _ _ => Run.beyond
  | .object id =>
    match s.findAttribute? (s.object id).cls "__call__" with
    | some (_, .function g) => m.call (.bound f g) args keywords
    | some _ => Run.beyond
    | none => notCallable s
  | _ => notCallable s
where
  /-- The value cannot be called. -/
  notCallable (s : Store) : Run Value :=
    Run.fail (.wrongType ("'" ++ s.typeName f ++ "' object is not callable"))

end Codebook.Live
