import Codebook.Live.Raised
import Codebook.Source.Printer
import Codebook.Source.Token
import Codebook.Text.Word

/-!
# Signatures

The parameters that a value takes when it is called, and how they are written. A function that
stands for another one shows the other's parameters; a class shows those that its objects are made
with.
-/

namespace Codebook.Live

open Source Text

/-- What can be said about the parameters of a value: each of them, or only how they are written. -/
inductive Signature
  | of (params : List (Parameter Value)) (returns : Option Value)
  | written (text : String)
  deriving Repr

/-- Why a value has no signature. -/
inductive SignatureError
  | notCallable (value : Value)
  | noFirst
  | unknown (value : Value)
  | unknownClass (c : ClassRef)
  | unsupported (value : Value)
  | unexpected (value : Value)
  | endless (value : Value)
  | wrongName (name : String)
  deriving Repr

/-- Raises the exception that says so. -/
def SignatureError.raise {α : Type} : SignatureError → Run α
  | .notCallable v => about .wrongType v fun t => t ++ " is not a callable object"
  | .noFirst => Run.fail (.wrongValue "invalid method signature")
  | .unknown v => about .wrongValue v fun t => "no signature found for builtin " ++ t
  | .unknownClass c =>
    about .wrongValue (.cls c) fun t => "no signature found for builtin type " ++ t
  | .unsupported v =>
    about .wrongValue v fun t => "callable " ++ t ++ " is not supported by signature"
  | .unexpected v =>
    about .wrongType v fun t => "unexpected object " ++ t ++ " in __signature__ attribute"
  | .endless v => about .wrongValue v fun t => "wrapper loop when unwrapping " ++ t
  | .wrongName name => Run.fail (.wrongValue (quoted name ++ " is not a valid parameter name"))
where
  /-- Raises an exception that shows the value. -/
  about {α : Type} (fault : String → Fault) (v : Value) (say : String → String) : Run α := do
    Run.fail (fault (say (← Run.written v)))

/-! ## Finding it -/

/-- A parameter that can be given by name is not named like a word of the language. Such a name can
only be written with letters that stand for others. -/
def hasProperName (p : Parameter Value) : Bool :=
  p.kind == .positionalOnly || !keywords.contains p.name

/-- The signature of a function by itself. -/
def ownSignature (f : FunctionObject) : Except SignatureError Signature :=
  match f.params.find? (!hasProperName ·) with
  | some p => .error (.wrongName p.name)
  | none => .ok <|
    .of (f.params.map fun p => { p with hint := f.hints.get? p.name }) (f.hints.get? "return")

/-- The signature of what takes any arguments. -/
def anySignature (named : String) : Signature :=
  .of [⟨"args", .variadic, none, none⟩, ⟨named, .keywords, none, none⟩] none

/-- The signature without the first parameter, which is given. -/
def withoutFirst : Signature → Except SignatureError Signature
  | .of (p :: ps) returns =>
    match p.kind with
    | .positionalOnly => .ok (.of ps returns)
    | .positional => .ok (.of ps returns)
    | .variadic => .ok (.of (p :: ps) returns)
    | _ => .error .noFirst
  | .of [] _ => .error .noFirst
  | .written t => .ok (.written t)

/-- A class without a definition has a maker of objects of its own. -/
def hasOwnMaker (maker name : String) : Bool :=
  !(["object", "Generic"].contains name) && (maker == "__new__" || !setByNew.contains name)
where
  /-- Those whose objects are all set when they are there. -/
  setByNew : List String :=
    ["Any", "int", "bool", "float", "complex", "str", "bytes", "tuple", "frozenset", "range", "slice",
      "map", "filter", "zip", "enumerate", "reversed", "memoryview"]

/-- The first maker of objects in the order of a class, if it is a defined function. -/
def definedMaker? (s : Store) (c : ClassRef) (maker : String) : Option Nat := do
  let d ← (s.order c).find? fun
    | .known name => hasOwnMaker maker name
    | d => ((s.classVars d).get? maker).isSome
  match (s.classVars d).get? maker with
  | some (.function f) => some f
  | some (.staticMethod (.function f)) => some f
  | _ => none

/-- The function that a class makes its objects with: of the two that there can be, the one that comes
first in the order. -/
def maker? (s : Store) (c : ClassRef) : Option Nat :=
  let new := definedMaker? s c "__new__"
  let init := definedMaker? s c "__init__"
  (s.order c).findSome? fun d =>
    if new.isSome && ((s.classVars d).get? "__new__").isSome then new
    else if init.isSome && ((s.classVars d).get? "__init__").isSome then init
    else none

/-- The signature of a class whose objects are made without a function of its own. -/
def plainSignature (s : Store) (c : ClassRef) : Except SignatureError Signature :=
  let known := (s.order c).filterMap fun
    | .known name => knownClass? name
    | .defined _ => none
  match (known.filter (·.name != "object")).findSome? (·.parameters) with
  | some text => .ok (.written text)
  | none =>
    if known.all (·.name == "object") then .ok (.written "()") else .error (.unknownClass c)

/-- The signature of a function that needs no definition. -/
def nativeSignature (f : Native) : Except SignatureError Signature :=
  let known := match f with
    | .objectMethod name => (objectMethods.lookup name).bind id
    | f => functionParameters.lookup f.text
  match known with
  | some text => .ok (.written text)
  | none => .error (.unknown (.native f))

/-- The variables that a value has by itself. -/
def ownVars (s : Store) : Value → Table
  | .function id => (s.function id).vars
  | .object id => (s.object id).vars
  | .cls c => s.classVars c
  | _ => []

/-- What a value stands for in the end. Nothing if that takes more than `fuel` steps. -/
def unwrapped? (s : Store) : (fuel : Nat) → Value → Option Value
  | 0, _ => none
  | n + 1, v =>
    match v with
    | .cls _ => some v
    | .staticMethod f => unwrapped? s n f
    | v =>
      match (ownVars s v).get? "__signature__", (ownVars s v).get? "__wrapped__" with
      | none, some w => unwrapped? s n w
      | _, _ => some v

/-- The signature of a value that stands for itself; `inner` gives those of other functions. -/
def directSignature (s : Store) (inner : Value → Except SignatureError Signature) (v : Value) :
    Except SignatureError Signature :=
  match (ownVars s v).get? "__signature__", v with
  | some (.int n), _ => .error (.unexpected (.int n))
  | some (.text t), _ => .error (.unexpected (.text t))
  | _, .function id => ownSignature (s.function id)
  | _, .bound self id => inner (.bound self id)
  | _, .native f => nativeSignature f
  | _, .cls c =>
    match maker? s c with
    | some id => do withoutFirst (← inner (.function id))
    | none => plainSignature s c
  | _, .form "Any" none => plainSignature s (.known "Any")
  | _, .form name none =>
    .ok (anySignature (if name == "Optional" || name == "Union" then "kwds" else "kwargs"))
  | _, .form _ (some _) => .ok (anySignature "kwargs")
  | _, .object id =>
    match s.findAttribute? (s.object id).cls "__call__" with
    | some (_, .function f) => do withoutFirst (← inner (.function f))
    | _ => .error (.unsupported v)
  | _, v => .error (.unsupported v)

/-- The signature of a value; at most `fuel` values are asked for theirs. -/
def signatureTo (s : Store) : (fuel : Nat) → Value → Except SignatureError Signature
  | 0, v => .error (.unsupported v)
  | n + 1, v =>
    if !s.isCallable v then .error (.notCallable v)
    else
      match v with
      | .bound _ id => do withoutFirst (← signatureTo s n (.function id))
      | v =>
        match unwrapped? s (s.functions.size + s.objects.size + 2) v with
        | some w => directSignature s (signatureTo s n) w
        | none => .error (.endless v)

/-- The signature of a value. Every function can stand for another one, so there are at most as many
steps as functions, and a few more. -/
def Store.signature (s : Store) (v : Value) : Except SignatureError Signature :=
  signatureTo s (s.functions.size + 4) v

/-! ## Writing it -/

/-- The words of a text without the name of the module that types come from. -/
def dropTyping (word : List Char) : List Char → List Char
  | [] => shortened word
  | c :: cs =>
    if isWord c || c == '.' then dropTyping (word ++ [c]) cs
    else shortened word ++ c :: dropTyping [] cs
where
  /-- A word without the name of that module. -/
  shortened (word : List Char) : List Char :=
    (dropPart? "typing.".toList word).getD word

/-- A class in a signature: its module is left out if it is the one that needs no import, or none. -/
def classHint (c : ClassRef) : Run String := do
  let s ← get
  match s.classHome c with
  | .none => return s.classPath c
  | .text "builtins" => return s.classPath c
  | .text home => return home ++ "." ++ s.classPath c
  | home =>
    Run.fail (.wrongType
      ("unsupported operand type(s) for +: '" ++ s.typeName home ++ "' and 'str'"))

/-- A type in a signature. Those that say they are from the module of forms are written without its
name. -/
def hintText (v : Value) : Run String := do
  let s ← get
  match v with
  | .form _ _ => short
  | .forward _ => short
  | .cls c => if isTyping s c then short else classHint c
  | .generic c _ => if isTyping s c then short else Run.written v
  | .unpacked (.form _ _) => short
  | .unpacked (.generic c _) => if isTyping s c then short else Run.written v
  | v => Run.written v
where
  /-- The class says that it is from the module of forms. -/
  isTyping (s : Store) (c : ClassRef) : Bool := (s.classHome c).same (.text "typing")
  /-- The text without the module that types come from. -/
  short : Run String := do
    return String.ofList (dropTyping [] (← Run.written v).toList)

/-- A parameter in a signature. -/
def parameterText (p : Parameter Value) : Run String := do
  let name := p.kind.stars ++ p.name
  let hinted ← match p.hint with
    | some h => do pure (name ++ ": " ++ (← hintText h))
    | none => pure name
  match p.default, p.hint with
  | some d, some _ => return hinted ++ " = " ++ (← Run.written d)
  | some d, none => return hinted ++ "=" ++ (← Run.written d)
  | none, _ => return hinted

/-- A signature as text. -/
def Signature.text : Signature → Run String
  | .of params returns => do
    let texts ← params.mapM parameterText
    let parts := markParameters ((params.map (·.kind)).zip texts)
    let result ← match returns with
      | some v => do pure (" -> " ++ (← hintText v))
      | none => pure ""
    return "(" ++ ", ".intercalate parts ++ ")" ++ result
  | .written t => return t

/-- The signature of a value; to have none is an exception. -/
def signatureOf (v : Value) : Run Signature := do
  match (← get).signature v with
  | .ok sig => return sig
  | .error e => e.raise

/-- The signature of a value as text, also where it has none. Only an exception that says more than
that one of its values is wrong stays one. -/
def signatureText (v : Value) : Run String :=
  tryCatch (do (← signatureOf v).text) fun
    | .raised e => do
      let s ← get
      if s.isInstance e (.known "ValueError") || s.isInstance e (.known "TypeError") then
        return "(unknown signature)"
      else throw (.raised e)
    | e => throw e

end Codebook.Live
