import Codebook.Source.Pattern

/-!
# Reading statements

Simple statements stand on one line, with semicolons between them. Compound statements have blocks:
an indented group of statements, or simple statements on the same line. Blocks are read through a
reader for statements one level less deep.
-/

namespace Codebook.Source

open Parse

/-! ## Simple statements -/

/-- The operators that change their target. -/
def augmentOp? : Token → Option BinaryOp
  | .op "+=" => some .add
  | .op "-=" => some .sub
  | .op "*=" => some .mul
  | .op "@=" => some .matMul
  | .op "/=" => some .div
  | .op "%=" => some .mod
  | .op "&=" => some .bitAnd
  | .op "|=" => some .bitOr
  | .op "^=" => some .bitXor
  | .op "<<=" => some .shiftLeft
  | .op ">>=" => some .shiftRight
  | .op "**=" => some .pow
  | .op "//=" => some .floorDiv
  | _ => none

/-- What a statement that starts with an expression starts with. A wary reader takes targets first
for what they are. -/
def statementStart (g : Nested) : Parse Expr := fun ts =>
  if g.wary then
    match starTargets g ts with
    | .ok (e, rest) =>
      let t := rest.headD .stop
      let isChanged := t == .op ":" || (augmentOp? t).isSome
      if t == .op "=" || (isChanged && isSingleTarget e) then .ok (e, rest)
      else starExpressions g ts
    | .error f => if f.final then .error f else starExpressions g ts
  else starExpressions g ts

/-- What can stand to the right of an assignment. -/
def assigned (g : Nested) : Parse Expr := do
  if ← nextIsWord "yield" then yieldExpression g else starExpressions g

/-- The assignment whose first targets have been read: more targets, then the value. -/
def assignFrom (g : Nested) (targets : List Expr) : Nat → Parse Stmt
  | 0 => unexpected
  | n + 1 => do
    let e ← if ← nextIsWord "yield" then yieldExpression g else statementStart g
    if ← nextIsOp "=" then
      unless isStarTarget e do unexpected
      skip
      assignFrom g (targets ++ [e]) n
    else return .assign targets e

/-- A statement that starts with an expression. -/
def expressionStatement (g : Nested) : Parse Stmt := do
  let simple ←
    match ← peek with
    | .name _ => do pure ((← peekSecond) == .op ":")
    | _ => pure false
  let e ← statementStart g
  if ← nextIsOp "=" then
    unless isStarTarget e do unexpected
    skip
    fun ts => assignFrom g [e] (ts.length + 1) ts
  else if ← nextIsOp ":" then
    unless isSingleTarget e do unexpected
    skip
    let hint ← g.expression
    let value ← if ← acceptOp "=" then pure (some (← assigned g)) else pure none
    return .annotate e hint value simple
  else
    match augmentOp? (← peek) with
    | some o =>
      unless isSingleTarget e do unexpected
      skip
      return .augment e o (← assigned g)
    | none => return .expr e

/-- Names with dots between them, as one text. -/
def dottedName : Parse String := do
  let first ← name
  let rest ← many do
    if ← acceptOp "." then return some (← name) else return none
  return ".".intercalate (first :: rest)

/-- The name that an imported name gets, if another. -/
def asName? : Parse (Option String) := do
  if ← acceptWord "as" then return some (← name) else return none

/-- The next token is a name. -/
def moreNames : Parse Bool := do
  match ← peek with
  | .name _ => return true
  | _ => return false

/-- The dots before the name of a module, counted. -/
def importDots : Parse Nat := do
  let ns ← many do
    if ← acceptOp "." then return some 1
    else if ← acceptOp "..." then return some 3
    else return none
  return ns.foldl (· + ·) 0

/-- The names that are imported from a module. -/
def importTargets : Parse (List Alias) := do
  let item : Parse Alias := do return ⟨← name, ← asName?⟩
  if ← acceptOp "*" then return [⟨"*", none⟩]
  if ← acceptOp "(" then
    let (names, _) ← commaList item moreNames
    op ")"
    return names
  let (names, comma) ← commaList item moreNames
  if comma then unexpected
  return names

/-- An import of names from a module. -/
def importFrom : Parse Stmt := do
  word "from"
  let level ← importDots
  let module ← if level == 0 || (← moreNames) then pure (some (← dottedName)) else pure none
  word "import"
  return .importFrom level module (← importTargets)

/-- An import of modules. -/
def importNames : Parse Stmt := do
  word "import"
  let item : Parse Alias := do return ⟨← dottedName, ← asName?⟩
  let (names, comma) ← commaList item moreNames
  if comma then unexpected
  return .importNames names

/-- Names with commas between them. -/
def nameList : Parse (List String) := do
  let (names, comma) ← commaList name moreNames
  if comma then unexpected
  return names

/-- A statement that deletes. -/
def deleteStatement (g : Nested) : Parse Stmt := do
  word "del"
  let (items, _) ← commaList g.primary moreExpressions
  unless areDeletable items do unexpected
  match ← peek with
  | .op ";" => return .delete items
  | .newline => return .delete items
  | _ => unexpected

/-- A statement that raises. -/
def raiseStatement (g : Nested) : Parse Stmt := do
  word "raise"
  if ← moreExpressions then
    let e ← g.expression
    let cause ← if ← acceptWord "from" then pure (some (← g.expression)) else pure none
    return .raise (some e) cause
  else return .raise none none

/-- A statement that asserts. -/
def assertStatement (g : Nested) : Parse Stmt := do
  word "assert"
  let test ← g.expression
  let message ← if ← acceptOp "," then pure (some (← g.expression)) else pure none
  return .assert test message

/-- One simple statement. -/
def simpleStatement (g : Nested) : Parse Stmt := do
  match ← peek with
  | .keyword "return" =>
    skip
    if ← moreStarred then return .ret (some (← starExpressions g)) else return .ret none
  | .keyword "import" => importNames
  | .keyword "from" => importFrom
  | .keyword "raise" => raiseStatement g
  | .keyword "pass" =>
    skip
    return .pass
  | .keyword "del" => deleteStatement g
  | .keyword "yield" => return .expr (← yieldExpression g)
  | .keyword "assert" => assertStatement g
  | .keyword "break" =>
    skip
    return .breakLoop
  | .keyword "continue" =>
    skip
    return .continueLoop
  | .keyword "global" =>
    skip
    return .global (← nameList)
  | .keyword "nonlocal" =>
    skip
    return .nonlocal (← nameList)
  | _ => expressionStatement g

/-- The simple statements of a line, up to its end. -/
def simpleStatements (g : Nested) : Parse (List Stmt) := do
  let first ← simpleStatement g
  let rest ← many do
    if (← nextIsOp ";") && (← peekSecond) != .newline then
      skip
      return some (← simpleStatement g)
    else return none
  let _ ← acceptOp ";"
  expect .newline
  return first :: rest

/-! ## Blocks -/

/-- What the readers of compound statements need: expressions, and the statements from here to the
end of the block or, for one statement, to its end. -/
structure Context where
  g : Nested
  statement : Parse (List Stmt)

/-- The statements up to the end of a block or of the text. -/
def statements (c : Context) : Parse (List Stmt) := do
  let ss ← many do
    match ← peek with
    | .dedent => return none
    | .stop => return none
    | _ => return some (← c.statement)
  return ss.flatten

/-- A block after its colon: on the same line or indented below. -/
def block (c : Context) : Parse (List Stmt) := do
  if ← accept .newline then
    match ← peek with
    | .indent =>
      skip
      let ss ← statements c
      expect .dedent
      return ss
    | .fault _ => unexpected
    | _ => miss .block true
  else simpleStatements c.g

/-- A colon and the block after it. -/
def colonBlock (c : Context) : Parse (List Stmt) := do
  op ":"
  block c

/-- The block after `else`, if there is one. -/
def elseBlock (c : Context) : Parse (List Stmt) := do
  if ← acceptWord "else" then colonBlock c else return []

/-! ## Compound statements -/

/-- The rest of a conditional statement after `if` or `elif`, with at most `n` more conditions. -/
def condFrom (c : Context) : Nat → Parse Stmt
  | 0 => miss .room true
  | n + 1 => do
    let test ← namedExpression c.g
    let body ← colonBlock c
    let orelse ←
      if ← acceptWord "elif" then pure [← condFrom c n] else elseBlock c
    return .cond test body orelse

/-- A `while` loop. -/
def whileStatement (c : Context) : Parse Stmt := do
  word "while"
  let test ← namedExpression c.g
  let body ← colonBlock c
  return .whileLoop test body (← elseBlock c)

/-- A `for` loop. -/
def forStatement (c : Context) (isAsync : Bool) : Parse Stmt := do
  word "for"
  let target ← starTargets c.g
  word "in"
  let iter ← starExpressions c.g
  let body ← colonBlock c
  return .forLoop isAsync target iter body (← elseBlock c)

/-- One item of a `with`. A target must be followed by the end of the item. -/
def withItem (g : Nested) : Parse (Expr × Option Expr) := do
  let e ← g.expression
  if ← acceptWord "as" then
    let target ← starTarget g
    match ← peek with
    | .op s => if [",", ")", ":"].contains s then return (e, some target) else unexpected
    | _ => unexpected
  else return (e, none)

/-- The items of a `with` and its colon: in parentheses if that is possible. -/
def withItems (g : Nested) : Parse (List (Expr × Option Expr)) :=
  orElse
    (do
      op "("
      let (items, _) ← commaList (withItem g) moreExpressions
      op ")"
      op ":"
      return items)
    (do
      let (items, comma) ← commaList (withItem g) moreExpressions
      if comma then unexpected
      op ":"
      return items)

/-- A `with` statement. -/
def withStatement (c : Context) (isAsync : Bool) : Parse Stmt := do
  word "with"
  let items ← withItems c.g
  return .withItems isAsync items (← block c)

/-- One `except`, if there is one; all of a statement have a star or none has. -/
def handler? (c : Context) (star : Bool) : Parse (Option (Handler Stmt)) := do
  unless ← acceptWord "except" do return none
  if star then op "*"
  if !star && (← nextIsOp ":") then return some ⟨none, none, ← colonBlock c⟩
  let type ← c.g.expression
  let name ← asName?
  return some ⟨some type, name, ← colonBlock c⟩

/-- A `try` statement. -/
def tryStatement (c : Context) : Parse Stmt := do
  word "try"
  let body ← colonBlock c
  let star := (← nextIsWord "except") && (← peekSecond) == .op "*"
  let handlers ← many (handler? c star)
  let orelse ← if handlers.isEmpty then pure [] else elseBlock c
  if ← acceptWord "finally" then
    return .tryBlock body star handlers orelse (← colonBlock c)
  else if handlers.isEmpty then
    match ← peek with
    | .fault _ => unexpected
    | _ => miss .handler true
  else return .tryBlock body star handlers orelse []

/-- One `case`, if there is one. -/
def case? (c : Context) : Parse (Option (Case Stmt)) := do
  if (← peek) != .name "case" then return none
  skip
  let pattern ← patterns c.g
  let guard ← if ← acceptWord "if" then pure (some (← namedExpression c.g)) else pure none
  return some ⟨pattern, guard, ← colonBlock c⟩

/-- What a `match` looks at. -/
def matchSubject (g : Nested) : Parse Expr := do
  let (items, comma) ← commaList (starNamed g) moreStarred
  match items, comma with
  | [e], false => if isStarred e then unexpected else return e
  | es, _ => return .tuple es

/-- The first line of a `match`, up to its end. -/
def matchHead (g : Nested) : Parse Expr := do
  expect (.name "match")
  let subject ← matchSubject g
  if g.wary then mistakeIf (expect .newline)
  op ":"
  expect .newline
  return subject

/-- The cases of a `match`. -/
def matchCases (c : Context) : Parse (List (Case Stmt)) := do
  match ← peek with
  | .indent => skip
  | .fault _ => unexpected
  | _ => miss .block true
  let cases ← many (case? c)
  if cases.isEmpty then unexpected
  expect .dedent
  return cases

/-- A `match` statement, or a line that only starts like one. -/
def matchStatement (c : Context) : Parse (List Stmt) := fun ts =>
  match matchHead c.g ts with
  | .ok (subject, rest) =>
    ((do return [.choose subject (← matchCases c)] : Parse (List Stmt)).run rest)
  | .error e => orElse (fun _ => .error e) (simpleStatements c.g) ts

/-! ## Definitions -/

/-- A function definition. -/
def functionDef (c : Context) (isAsync : Bool) (decorators : List Expr) : Parse Stmt := do
  word "def"
  let name ← name
  op "("
  let params ← parameters c.g true ")"
  op ")"
  let returns ← if ← acceptOp "->" then pure (some (← c.g.expression)) else pure none
  let body ← colonBlock c
  return .functionDef ⟨isAsync, name, params, returns, decorators, body⟩

/-- A class definition. -/
def classDef (c : Context) (decorators : List Expr) : Parse Stmt := do
  word "class"
  let name ← name
  let args ←
    if ← acceptOp "(" then
      let a ← arguments c.g
      op ")"
      pure a
    else pure ⟨[], []⟩
  let body ← colonBlock c
  return .classDef ⟨name, args.args, args.keywords, decorators, body⟩

/-- The decorators before a definition. -/
def decorators (g : Nested) : Parse (List Expr) :=
  many do
    if ← acceptOp "@" then
      let e ← namedExpression g
      expect .newline
      return some e
    else return none

/-- A definition with its decorators. -/
def definition (c : Context) : Parse Stmt := do
  let ds ← decorators c.g
  match ← peek with
  | .keyword "class" => classDef c ds
  | .keyword "async" =>
    skip
    functionDef c true ds
  | _ => functionDef c false ds

/-- A statement after `async`. -/
def asyncStatement (c : Context) : Parse Stmt := do
  word "async"
  match ← peek with
  | .keyword "def" => functionDef c true []
  | .keyword "with" => withStatement c true
  | _ => forStatement c true

/-- One statement, or the simple statements of one line. -/
def statement (c : Context) : Parse (List Stmt) := do
  match ← peek with
  | .keyword "if" =>
    skip
    return [← condFrom c maxLevels]
  | .keyword "while" => return [← whileStatement c]
  | .keyword "for" => return [← forStatement c false]
  | .keyword "with" => return [← withStatement c false]
  | .keyword "try" => return [← tryStatement c]
  | .keyword "def" => return [← definition c]
  | .keyword "class" => return [← definition c]
  | .op "@" => return [← definition c]
  | .keyword "async" => return [← asyncStatement c]
  | .name "match" => matchStatement c
  | _ => simpleStatements c.g

/-- The reader of statements with at most `n` levels of blocks. -/
def context (g : Nested) : Nat → Context
  | 0 => ⟨g, unexpected⟩
  | n + 1 => ⟨g, fun ts => statement (context g n) ts⟩

end Codebook.Source
