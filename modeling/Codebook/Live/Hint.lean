import Codebook.Live.Equality
import Codebook.Live.Show
import Codebook.Source.Module
import Codebook.Source.Placement

/-!
# Types in hints

What subscripts and alternatives of types make: `List[int]`, `Optional[str]`, `list[int]`, `int |
None`. Alternatives are flat and without repetitions, nothing stands for its class, and a text for a
name that is yet to come.
-/

namespace Codebook.Live

open Source

/-! ## Forms -/

/-- How many arguments the forms take that name a container. -/
def containerForms : List (String × Nat) :=
  [("List", 1), ("Dict", 2), ("Set", 1), ("FrozenSet", 1), ("Type", 1), ("Deque", 1),
    ("DefaultDict", 2), ("OrderedDict", 2), ("Iterable", 1), ("Iterator", 1), ("Sequence", 1),
    ("MutableSequence", 1), ("Mapping", 2), ("MutableMapping", 2), ("Collection", 1),
    ("Container", 1), ("Awaitable", 1), ("AsyncIterator", 1), ("AsyncIterable", 1)]

/-- The forms that can be imported. -/
def formNames : List String :=
  ["Any", "Optional", "Union", "Tuple"] ++ containerForms.map (·.1)

/-- The class that a form stands for as a base of a class. -/
def formOrigin? : String → Option String
  | "List" => some "list"
  | "Dict" => some "dict"
  | "Set" => some "set"
  | "FrozenSet" => some "frozenset"
  | "Tuple" => some "tuple"
  | "Type" => some "type"
  | "OrderedDict" => some "OrderedDict"
  | _ => none

/-- The class of nothing. -/
def nothing : Value := .cls (.known "NoneType")

/-- The text is an expression that can be run. A star before it spreads it out. -/
def isReference (s : String) : Bool :=
  let written := if s.startsWith "*" then "(" ++ s ++ ",)[0]" else s
  match Source.parseExpression? written with
  | some e => e.depth < runDepthLimit && admissible [.expr e]
  | none => false

/-- A value as an argument of a form. -/
def asArgument (msg : String) : Value → Run Value
  | .none => return nothing
  | .text s => do
    if isReference s then return .forward s
    let shown := (← get).repr (.text s)
    Run.raiseWith "SyntaxError" [.text ("Forward reference must be an expression -- got " ++ shown)]
  | .form "Optional" none => plain "Optional"
  | .form "Union" none => plain "Union"
  | .tuple items => do
    let text := String.ofList (((← get).repr (.tuple items)).toList.take 100)
    Run.fail (.wrongType (msg ++ " Got " ++ text ++ "."))
  | v => return v
where
  /-- A form that needs arguments stands without them. -/
  plain (name : String) : Run Value :=
    Run.fail (.wrongType ("Plain typing." ++ name ++ " is not valid as type argument"))

/-- The alternatives in a value. -/
def alternatives : Value → List Value
  | .form "Union" (some args) => args
  | .union members => members
  | v => [v]

/-- The alternatives among forms. One alternative is itself. -/
def unionForm (args : List Value) : Run Value := do
  let vs := args.flatMap alternatives
  match vs.find? (!·.isKey) with
  | some v =>
    let name := (← get).typeName v
    Run.fail (.wrongType ("unhashable type: '" ++ name ++ "'"))
  | none =>
    match distinct vs with
    | [v] => return v
    | vs => return .form "Union" (some vs)

/-- The subscript as a list of arguments. -/
def argumentList : Value → List Value
  | .tuple items => items
  | v => [v]

/-- A form with arguments that it has not been given before. -/
def newForm (name : String) (index : Value) : Run Value :=
  match name with
  | "Any" => Run.fail (.wrongType "type 'Any' is not subscriptable")
  | "Optional" => do
    let a ← asArgument "typing.Optional requires a single type." index
    unionForm [a, nothing]
  | "Union" => do
    match argumentList index with
    | [] => Run.fail (.wrongType "Cannot take a Union of no types.")
    | args =>
      let args ← args.mapM (asArgument "Union[arg, ...]: each arg must be a type.")
      unionForm args
  | "Tuple" => do
    let args ← (argumentList index).mapM (asArgument "Tuple[t0, t1, ...]: each t must be a type.")
    return .form "Tuple" (some args)
  | _ => do
    let args ← (argumentList index).mapM (asArgument "Parameters to generic types must be types.")
    let expected := (containerForms.lookup name).getD 1
    if args.length == expected then return .form name (some args)
    else
      let few := if args.length < expected then "few" else "many"
      Run.fail (.wrongType (s!"Too {few} arguments for typing.{name}; actual " ++
        toString args.length ++ ", expected " ++ toString expected))

/-- A form with arguments. Equal arguments give the very form that they gave before. -/
def subscriptForm (name : String) (index : Value) : Run Value := do
  let forms := (← get).forms
  match if index.isKey then forms.find? fun f => f.1 == name && index.same f.2.1 else none with
  | some f => return f.2.2
  | none =>
    let v ← newForm name index
    if index.isKey then modify fun s => { s with forms := s.forms ++ [(name, index, v)] }
    return v

/-! ## Classes with arguments, and alternatives -/

/-- The classes that take arguments. -/
def genericClasses : List String :=
  ["list", "dict", "tuple", "set", "frozenset", "type", "OrderedDict", "enumerate"]

/-- The value can be an alternative without a form. -/
def isAlternative : Value → Bool
  | .none => true
  | .cls _ => true
  | .generic _ _ => true
  | .union _ => true
  | .form "Any" none => true
  | _ => false

/-- The value is a form, whose alternatives are a form too. -/
def isForm : Value → Bool
  | .form "Any" none => false
  | .form _ _ => true
  | .forward _ => true
  | _ => false

/-- Nothing stands for its class. -/
def unNone : Value → Value
  | .none => nothing
  | v => v

/-- The alternatives of two types, if the two values are types. -/
def either? (a b : Value) : Option (Run Value) :=
  if isForm a || isForm b then
    some (subscriptForm "Union" (.tuple [a, b]))
  else if isAlternative a && isAlternative b then
    match a, b with
    | .none, .none => none
    | _, _ =>
      some <| return match distinct (alternatives (unNone a) ++ alternatives (unNone b)) with
        | [v] => v
        | vs => .union vs
  else none

end Codebook.Live
