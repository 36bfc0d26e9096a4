import Codebook.Disk
import Codebook.Docstring
import Codebook.Record.Basic
import Codebook.Record.Decode
import Codebook.Source.Module
import Codebook.Text.Blank
import Codebook.Text.Part

/-!
# Records from the source text alone

`Outline` describes the definitions of a source file without running it. Of a function it takes the
parameters that can be given by position or by name, with annotations that are plain names. A
function whose docstring does not describe the result has no outline, and a file with such a
function among its public ones has an empty outline.
-/

namespace Codebook.Outline

open Text Source

/-- Why a definition has no outline: its docstring does not describe the result, or a name was
needed and another expression found. -/
inductive Error
  | noResult
  | noName (expression : String)
  deriving DecidableEq, Repr

/-- The wording of an error. -/
def Error.message : Error → String
  | .noResult => "'NoneType' object has no attribute 'get'"
  | .noName e => "'" ++ e ++ "' object has no attribute 'id'"

/-- The kind of an expression as the grammar calls it. -/
def kindName : Expr → String
  | .name _ => "Name"
  | .constant _ => "Constant"
  | .joined _ => "JoinedStr"
  | .formatted _ _ _ => "FormattedValue"
  | .binary _ _ _ => "BinOp"
  | .unary _ _ => "UnaryOp"
  | .bool _ _ => "BoolOp"
  | .compare _ _ => "Compare"
  | .conditional _ _ _ => "IfExp"
  | .lambda _ _ => "Lambda"
  | .tuple _ => "Tuple"
  | .list _ => "List"
  | .set _ => "Set"
  | .dict _ => "Dict"
  | .comprehension .list _ _ => "ListComp"
  | .comprehension .set _ _ => "SetComp"
  | .comprehension .generator _ _ => "GeneratorExp"
  | .dictComprehension _ _ _ => "DictComp"
  | .call _ _ _ => "Call"
  | .attribute _ _ => "Attribute"
  | .subscript _ _ => "Subscript"
  | .slice _ _ _ => "Slice"
  | .starred _ => "Starred"
  | .walrus _ _ => "NamedExpr"
  | .await _ => "Await"
  | .yield _ => "Yield"
  | .yieldFrom _ => "YieldFrom"

/-- The name that an expression is. -/
def nameOf : Expr → Except Error String
  | .name id => .ok id
  | e => .error (.noName (kindName e))

/-- The origin of the records of a file. -/
def originOf (path : String) : Origin :=
  ⟨path, sourceExtractor, .codeStructure⟩

/-! ## Functions -/

/-- The annotation of a parameter, which must be a name. -/
def hintOf : Option Expr → Except Error (Option String)
  | none => .ok none
  | some e => (nameOf e).map some

/-- The parameters that can be given by position or by name, with their annotations. -/
def parametersOf : List (Parameter Expr) → Except Error (List (String × Option String))
  | [] => .ok []
  | p :: ps => do
    if p.kind == .positional then
      let a ← hintOf p.hint
      return (p.name, a) :: (← parametersOf ps)
    else parametersOf ps

/-- The result annotation, as far as it is a name or a name in a module. -/
def returnTypeOf : Option Expr → Except Error (Option String)
  | some (.name id) => .ok (some id)
  | some (.attribute v attr) => (nameOf v).map fun n => some (n ++ "." ++ attr)
  | _ => .ok none

/-- The signature text. -/
def signature (params : List (String × Option String)) (returns : Option String) : String :=
  let shown := params.map fun p =>
    match p.2 with
    | some a => p.1 ++ ": " ++ a
    | none => p.1
  "(" ++ ", ".intercalate shown ++ ")" ++
    match returns with
    | some r => " -> " ++ r
    | none => ""

/-- The record of a function definition. -/
def functionRecord (path : String) (f : Function) : Except Error FunctionRecord := do
  let doc := docstring? f.body
  let described := Docstring.parse? doc
  let params := ofNamed (← parametersOf f.params)
  let returns ← returnTypeOf f.returns
  match described.returns with
  | none => .error .noResult
  | some r =>
    return {
      origin := originOf path
      name := f.name
      docstring := doc
      signature := signature params returns
      parameters := params.map fun p =>
        (p.1, parameterInfo "POSITIONAL_OR_KEYWORD" none p.2 (described.description? p.1))
      returnType := returns
      returnDescription := some r.description
      modulePath := path }

/-! ## Classes -/

/-- A name that does not start with an underscore. -/
def isPublic (name : String) : Bool :=
  !startsWith ['_'] name.toList

/-- A method is described if it is public or the one that sets up an instance. -/
def isDescribed (name : String) : Bool :=
  isPublic name || name == "__init__"

/-- The function definitions among statements, asynchronous ones left out. -/
def functionsIn (body : List Stmt) : List Function :=
  body.filterMap fun s =>
    match s with
    | .functionDef f => if f.isAsync then none else some f
    | _ => none

/-- The class definitions among statements. -/
def classesIn (body : List Stmt) : List Source.Class :=
  body.filterMap fun s =>
    match s with
    | .classDef c => some c
    | _ => none

/-- The record of a class definition. -/
def classRecord (path : String) (c : Source.Class) : Except Error ClassRecord := do
  let methods ← ((functionsIn c.body).filter (isDescribed ·.name)).mapM (functionRecord path)
  return ⟨originOf path, c.name, docstring? c.body, methods, path⟩

/-! ## Modules -/

/-- The text between the third character and the next three quotes, of a text that starts with
three quotes after its blanks. -/
def leadingText? (code : List Char) : Option String :=
  let quotes := ['"', '"', '"']
  if startsWith quotes (stripStart code) then
    (cutAt? quotes (code.drop 3)).map fun r => String.ofList (strip r.1)
  else none

/-- The docstring of a file: its first statement, else the first text that is a statement, else what
its first characters suggest. -/
def moduleDocstring (code : String) (body : List Stmt) : Option String :=
  match docstring? body with
  | some d => some d
  | none =>
    match body.findSome? Stmt.text? with
    | some s => some (trimmed s)
    | none => leadingText? code.toList

/-- The module with the given name and nothing in it. -/
def emptyModule (path : Path) : ModuleRecord :=
  ⟨originOf path.toString, path.stem, none, [], []⟩

/-- The records of the public definitions of a file. -/
def definitions (path : String) (body : List Stmt) :
    Except Error (List FunctionRecord × List ClassRecord) := do
  let functions ← ((functionsIn body).filter (isPublic ·.name)).mapM (functionRecord path)
  let classes ← ((classesIn body).filter (isPublic ·.name)).mapM (classRecord path)
  return (functions, classes)

end Codebook.Outline
