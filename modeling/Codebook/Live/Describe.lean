import Codebook.Docstring
import Codebook.Live.Doc
import Codebook.Live.Load
import Codebook.Live.Signature
import Codebook.Outline.Basic
import Codebook.Record.Basic

/-!
# Records of live objects

What is recorded of the functions, classes and modules that are there after a file was run. Members
are taken in the order of their names; a private one is left out. A function whose docstring says
nothing of its result has no record. To describe objects may run code of the source, as its values
are asked for their texts, so that it can end like any other run.
-/

namespace Codebook.Live

open Outline Source

/-! ## Functions -/

/-- How a parameter takes its arguments, by name. -/
def kindText : ParameterKind → String
  | .positionalOnly => "POSITIONAL_ONLY"
  | .positional => "POSITIONAL_OR_KEYWORD"
  | .variadic => "VAR_POSITIONAL"
  | .keywordOnly => "KEYWORD_ONLY"
  | .keywords => "VAR_KEYWORD"

/-- The name of a function. -/
def functionName? (s : Store) : Value → Option String
  | .function id => some (s.function id).name
  | .bound _ id => some (s.function id).name
  | .native f => some f.text
  | .given f _ => some f.text
  | .form name _ => some name
  | _ => none

/-- The text of a value that may be missing. -/
def textOf? : Option Value → Run (Option String)
  | some v => do return some (← Run.told v)
  | none => return none

/-- What is said about a parameter. -/
def parameterOf (doc : Docstring) (p : Parameter Value) : Run (String × Info) := do
  let default ← textOf? p.default
  let hint ← textOf? p.hint
  return (p.name, parameterInfo (kindText p.kind) default hint (doc.description? p.name))

/-- The record of a function. -/
def describeFunction (path : String) (v : Value) : Run FunctionRecord := do
  let docstring := (← get).doc? v
  let doc := Docstring.parse? docstring
  let signature ← signatureText v
  let (params, returns) := match ← signatureOf v with
    | .of params returns => (params, returns)
    | .written _ => ([], none)
  let parameters ← params.mapM (parameterOf doc)
  let returnType ← textOf? returns
  match functionName? (← get) v, doc.returns with
  | none, _ =>
    Run.fail (.noAttribute ("'" ++ (← get).typeName v ++ "' object") "__name__")
  | some _, none => Run.fail (.noAttribute "'NoneType' object" "get")
  | some name, some result =>
    return {
      origin := originOf path
      name
      docstring
      signature
      parameters
      returnType
      returnDescription := some result.description
      modulePath := path }

/-! ## Classes -/

/-- A name put in its place among names in order, unless it is there. -/
def insertName (name : String) : List String → List String
  | [] => [name]
  | n :: ns =>
    if name == n then n :: ns else if name < n then name :: n :: ns else n :: insertName name ns

/-- Names without repetitions, in order. -/
def sortedNames (names : List String) : List String :=
  names.foldr insertName []

/-- The functions among the members of a class, with their names. -/
def methodsOf (s : Store) (c : ClassRef) : List (String × Value) :=
  (sortedNames ((s.order c).flatMap fun d => (s.classVars d).map (·.1))).filterMap fun name =>
    match s.member? (.cls c) name with
    | some (.function id) => some (name, .function id)
    | _ => none

/-- The record of a class. -/
def describeClass (path : String) (c : ClassRef) : Run ClassRecord := do
  let docstring := (← get).doc? (.cls c)
  let methods ← ((methodsOf (← get) c).filter (isDescribed ·.1)).mapM fun m =>
    describeFunction path m.2
  return ⟨originOf path, (← get).className c, docstring, methods, path⟩

/-! ## Modules -/

/-- The names of the members of a module: those that it lists, if it has a function for that, or else
those of its variables. -/
def memberNames (frame : Nat) : Run (List String) := do
  let vars := ((← get).frame frame).vars
  match vars.get? "__dir__" with
  | none => return vars.map (·.1)
  | some f =>
    let items ← iterate (← (machine callLimit).call f [] [])
    items.mapM fun
      | .text t => return t
      | _ => Run.fail (.wrongType "attribute name must be string")

/-- The member of a module with a name, if there is one. -/
def moduleMember? (frame : Nat) (name : String) : Run (Option (String × Value)) :=
  orMissing
    (do return some (name, ← getAttribute (machine callLimit) (.module (.loaded frame)) name))
    (return none)

/-- The value is a public member that was defined in the module of the given name. -/
def isOwn (s : Store) (module name : String) (v : Value) : Bool :=
  let home := match v with
    | .function id => (s.function id).home
    | .cls c => s.classHome c
    | _ => .none
  isPublic name && home.same (.text module)

/-- The values of a kind that are public members of a module and were defined in it, in the order of
their names. -/
def ownMembers {α : Type} (m : Module) (kind : Value → Option α) : Run (List α) := do
  let members ← (sortedNames (← memberNames m.frame)).mapM (moduleMember? m.frame)
  let s ← get
  return (members.filterMap id).filterMap fun i => if isOwn s m.name i.1 i.2 then kind i.2 else none

/-- A docstring that is no text counts as its text if it is a number or bytes. -/
def docstringText (v : Value) : Run (Option String) := do
  let s ← get
  let wrong := Run.fail (.wrongValue "Input should be a valid string")
  match v with
  | .none => return none
  | .text t => return some t
  | .bool b => return some (s.str (.bool b))
  | .int n => if (Value.int n).isShort then return some (s.str (.int n)) else wrong
  | .float x => return some (s.str (.float x))
  | .bytes b =>
    match Text.decode b with
    | .ok t => return some t
    | .error _ => wrong
  | _ => wrong

/-- The record of a loaded module, with the docstring that its first characters suggest if they
suggest one. The members are listed once for its functions and once for its classes. -/
def describeModule (path : Path) (m : Module) (suggested : Option String) : Run ModuleRecord := do
  let file := path.toString
  let s ← get
  let doc := match suggested with
    | some t => Value.text t
    | none => s.moduleDoc m.frame
  let functions ← (← ownMembers m fun
    | .function id => some (Value.function id)
    | _ => none).mapM (describeFunction file)
  let classes ← (← ownMembers m fun
    | .cls c => some c
    | _ => none).mapM (describeClass file)
  return ⟨originOf file, m.name, ← docstringText doc, functions, classes⟩

end Codebook.Live
