import Codebook.Source.Depth
import Codebook.Source.Statement
import Codebook.Text.Half
import Codebook.Text.Lines
import Codebook.Text.Margin

/-!
# Source files

`Source.parse` reads the text of a source file into its statements. Of a text that is no source file
it tells only which kind of error it has: in the indentation, in the use of tabs there, a null
character or half of one, parts too deep inside each other, or any other.

A text with an error in its indentation is read once more, warily: if there is a mistake before that
error, it is the mistake that counts.
-/

namespace Codebook.Source

open Text

/-- Why a text is no source file. -/
inductive Error
  | grammar
  | indentation
  | tabs
  | nullCharacter
  | tooDeep
  | noRoom
  | unencodable (f : EncodeFailure)
  deriving DecidableEq, Repr

/-- The wording of the errors that have one. -/
def Error.message? : Error → Option String
  | .nullCharacter => some "source code string cannot contain null bytes"
  | .tooDeep => some "maximum recursion depth exceeded during ast construction"
  | .noRoom => some ""
  | .unencodable f => some f.message
  | _ => none

/-- The error that a fault of the text is. -/
def LexFault.error : LexFault → Error
  | .tabs => .tabs
  | .dedent => .indentation
  | .tooDeep => .indentation
  | .continuation => .grammar
  | .endOfText => .grammar
  | .malformed => .grammar

/-- The fault by which the tokens end, if it is found by looking at the characters alone. -/
def lateFault (ts : List Token) : Bool :=
  ts.getLast? == some (.fault .malformed)

/-- The error that a failure to read the tokens is. -/
def Failure.error (ts : List Token) (f : Failure) : Error :=
  let rest := ts.drop (ts.length - f.left)
  match f.miss with
  | .literal => .grammar
  | .handler => .grammar
  | .mistake => .grammar
  | .room => .noRoom
  | .block => if lateFault rest then .grammar else .indentation
  | .token =>
    match rest with
    | .fault e :: _ => e.error
    | .indent :: _ => .indentation
    | .dedent :: _ => .indentation
    | _ => .grammar

/-- All statements up to the end of the text. -/
def file (c : Context) : Parse (List Stmt) := do
  let ss ← statements c
  Parse.expect .stop
  return ss

/-- The tokens as statements, read warily or not. -/
def readFile (wary : Bool) (size : Nat) (ts : List Token) : Except Failure (List Stmt) :=
  (file (context (nested wary (min size maxLevels)) size) ts).map (·.1)

/-- The failure is at a token that stands there, not at a fault of the text. -/
def Failure.atToken (ts : List Token) (f : Failure) : Bool :=
  match ts.drop (ts.length - f.left) with
  | .fault _ :: _ => false
  | _ => true

/-- A wary reader finds a mistake. -/
def mistaken (size : Nat) (ts : List Token) : Bool :=
  match readFile true size ts with
  | .error f => f.miss == .mistake
  | .ok _ => false

/-- The statements of a source text whose line ends are line feeds. -/
def parseLines (cs : List Char) : Except Error (List Stmt) :=
  let ts := tokens cs
  let size := 2 * cs.length + 8
  match readFile false size ts with
  | .ok ss => if depthLimit ≤ deepestIn ss then .error .tooDeep else .ok ss
  | .error f =>
    let e := f.error ts
    if e == .indentation && f.atToken ts && mistaken size ts then .error .grammar else .error e

/-- The statements of a source file. -/
def parse (text : String) : Except Error (List Stmt) :=
  match encode? text with
  | .error f => .error (.unencodable f)
  | .ok bytes =>
    if bytes.contains 0 then .error .nullCharacter else parseLines (unifyNewlines text.toList)

/-- Expressions with commas between them, up to the end of the text. -/
def expressionFile (g : Nested) : Parse Expr := do
  let r ← Parse.commaList g.expression moreExpressions
  Parse.expect .newline
  Parse.expect .stop
  return tupleOf r

/-- The expression that a text is. -/
def parseExpression? (text : String) : Option Expr :=
  let cs := unifyNewlines text.toList
  if cs.contains '\x00' || cs.any (fun c => (half? c).isSome) then none
  else
    let ts := tokens cs
    match expressionFile (nested false (min ts.length maxLevels + 2)) ts with
    | .ok (e, _) => some e
    | .error _ => none

/-- The text of a statement that is nothing but a text. -/
def Stmt.text? : Stmt → Option String
  | .expr (.constant (.text s _)) => some s
  | _ => none

/-- The docstring of a body: a text that is its first statement, without its margin. -/
def docstring? : List Stmt → Option String
  | s :: _ => s.text?.map dedent
  | [] => none

end Codebook.Source
