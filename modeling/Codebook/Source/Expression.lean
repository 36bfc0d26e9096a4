import Codebook.Source.Escape
import Codebook.Source.Parse

/-!
# Reading expressions

Expressions are read by precedence. Everything that can be nested is read through a `Nested`, a
bundle of readers that is one level less deep; `nested n` is the bundle for `n` levels, and as each
level takes at least one token, as many levels as there are tokens are enough.
-/

namespace Codebook.Source

open Parse

/-- The readers of what can stand inside something else. A wary bundle also fails at what can be
read and yet looks like a mistake. Expressions inside strings are never read warily. What follows a
`lambda` and an exponent take two levels each. -/
structure Nested where
  wary : Bool
  embedded : Parse Expr
  expression : Parse Expr
  body : Parse Expr
  factor : Parse Expr
  exponent : Parse Expr
  bitOr : Parse Expr
  disjunction : Parse Expr
  primary : Parse Expr

/-! ## Mistakes -/

/-- What stands here is a mistake if the reader can read it. Nothing is taken. -/
def mistakeIf (p : Parse Unit) : Parse Unit := fun ts =>
  match p ts with
  | .ok _ => .error ⟨.mistake, ts.length, true⟩
  | .error e => if e.final then .error e else .ok ((), ts)

/-! ## What can start an expression -/

/-- The token can start an expression. -/
def startsExpression : Token → Bool
  | .name _ => true
  | .number _ => true
  | .longNumber => true
  | .string _ => true
  | .op s => ["(", "[", "\x7b", "-", "+", "~", "..."].contains s
  | .keyword s => ["None", "True", "False", "lambda", "not", "await"].contains s
  | _ => false

/-- The next token can start an expression. -/
def moreExpressions : Parse Bool := do
  return startsExpression (← peek)

/-- The next token can start an expression or a starred one. -/
def moreStarred : Parse Bool := do
  let t ← peek
  return startsExpression t || t == .op "*"

/-! ## Lists of expressions -/

/-- A name and `:=` stand here. -/
def nextIsNamed : Parse Bool := do
  match ← peek with
  | .name _ => return (← peekSecond) == .op ":="
  | _ => return false

/-- A name with a value, or an expression that no `:=` follows. -/
def namedArgument (g : Nested) : Parse Expr := do
  if ← nextIsNamed then
    let s ← name
    skip
    return .walrus s (← g.expression)
  else
    let e ← g.expression
    if ← nextIsOp ":=" then unexpected
    return e

/-- What attributes, calls and indices are taken of. -/
def innermost : Expr → Expr
  | .attribute e _ => innermost e
  | .call f _ _ => innermost f
  | .subscript e _ => innermost e
  | e => e

/-- The expression starts like a display, or is a constant that has a word of its own. -/
def opensDisplay (e : Expr) : Bool :=
  match innermost e with
  | .list _ => true
  | .tuple _ => true
  | .comprehension .generator _ _ => true
  | .constant .none => true
  | .constant .true => true
  | .constant .false => true
  | _ => false

/-- A value is assigned here where only a comparison makes sense. -/
def misplacedAssignment (g : Nested) : Parse Unit := do
  let start ← peek
  let second ← peekSecond
  let e ← g.bitOr
  let isName := match start with
    | .name _ => second == .op "="
    | _ => false
  if !isName && opensDisplay e then unexpected
  op "="
  let _ ← g.bitOr
  if (← nextIsOp "=") || (← nextIsOp ":=") then unexpected

/-- A name with a value, or an expression that no `:=` follows, where neither `:=` nor `=` may
follow an expression. -/
def namedExpression (g : Nested) : Parse Expr := do
  if ← nextIsNamed then namedArgument g
  else
    let start ← get
    let e ← g.expression
    if ← nextIsOp ":=" then
      if g.wary then mistakeIf (do skip; let _ ← g.expression)
      unexpected
    if g.wary && (← nextIsOp "=") then
      let rest ← get
      set start
      mistakeIf (misplacedAssignment g)
      set rest
    return e

/-- A starred operand, or a named expression. -/
def starNamed (g : Nested) : Parse Expr := do
  if ← acceptOp "*" then return .starred (← g.bitOr) else namedExpression g

/-- A starred operand, or an expression. -/
def starExpression (g : Nested) : Parse Expr := do
  if ← acceptOp "*" then return .starred (← g.bitOr) else g.expression

/-- One item alone is itself, and a comma makes a tuple. -/
def tupleOf : List Expr × Bool → Expr
  | ([e], false) => e
  | (es, _) => .tuple es

/-- Expressions with commas between them. -/
def starExpressions (g : Nested) : Parse Expr := do
  return tupleOf (← commaList (starExpression g) moreStarred)

/-- A `yield` and what it yields. -/
def yieldExpression (g : Nested) : Parse Expr := do
  word "yield"
  if ← acceptWord "from" then return .yieldFrom (← g.expression)
  else if ← moreStarred then return .yield (some (← starExpressions g))
  else return .yield none

/-! ## Targets -/

mutual

/-- The expression can be assigned to. -/
def isTarget : Expr → Bool
  | .name _ => true
  | .attribute _ _ => true
  | .subscript _ _ => true
  | .tuple items => areTargets items
  | .list items => areTargets items
  | _ => false

/-- All expressions can be assigned to, one star before each allowed. -/
def areTargets : List Expr → Bool
  | [] => true
  | .starred e :: es => isTarget e && areTargets es
  | e :: es => isTarget e && areTargets es

end

/-- The expression can be assigned to, with or without a star. -/
def isStarTarget (e : Expr) : Bool :=
  areTargets [e]

mutual

/-- The expression can be deleted. -/
def isDeletable : Expr → Bool
  | .name _ => true
  | .attribute _ _ => true
  | .subscript _ _ => true
  | .tuple items => areDeletable items
  | .list items => areDeletable items
  | _ => false

/-- All expressions can be deleted. -/
def areDeletable : List Expr → Bool
  | [] => true
  | e :: es => isDeletable e && areDeletable es

end

/-- A single place that can be changed or annotated. -/
def isSingleTarget : Expr → Bool
  | .name _ => true
  | .attribute _ _ => true
  | .subscript _ _ => true
  | _ => false

/-- One target, with or without a star. -/
def starTarget (g : Nested) : Parse Expr := do
  let e ← if ← acceptOp "*" then return .starred (← checked) else checked
  return e
where
  /-- A primary that can be assigned to. -/
  checked : Parse Expr := do
    let e ← g.primary
    if isTarget e then return e else unexpected

/-- Targets with commas between them. -/
def starTargets (g : Nested) : Parse Expr := do
  return tupleOf (← commaList (starTarget g) moreStarred)

/-! ## Comprehensions -/

/-- The next token starts a clause of a comprehension. -/
def nextIsClause : Parse Bool := do
  let t ← peek
  return t == .keyword "for" || t == .keyword "async"

/-- One clause of a comprehension, if one starts here. -/
def clause? (g : Nested) : Parse (Option (Clause Expr)) := do
  unless ← nextIsClause do return none
  let isAsync ← acceptWord "async"
  word "for"
  let target ← starTargets g
  word "in"
  let iter ← g.disjunction
  let conditions ← many do
    if ← acceptWord "if" then return some (← g.disjunction) else return none
  return some ⟨isAsync, target, iter, conditions⟩

/-- The clauses of a comprehension. -/
def clauses (g : Nested) : Parse (List (Clause Expr)) :=
  many (clause? g)

/-- The expression has a star. -/
def isStarred : Expr → Bool
  | .starred _ => true
  | _ => false

/-! ## Atoms in brackets -/

/-- A single expression with stars before it, and the closing parenthesis. -/
def loneStarred (g : Nested) : Parse Unit := do
  unless ← acceptOp "*" do op "**"
  let _ ← g.expression
  op ")"

/-- What follows an opening parenthesis. -/
def parenthesized (g : Nested) : Parse Expr := do
  if g.wary then mistakeIf (loneStarred g)
  if ← acceptOp ")" then return .tuple []
  if ← nextIsWord "yield" then
    let e ← yieldExpression g
    op ")"
    return e
  let first ← starNamed g
  if !isStarred first && (← nextIsClause) then
    let cs ← clauses g
    op ")"
    return .comprehension .generator first cs
  if ← nextIsOp "," then
    skip
    if ← acceptOp ")" then return .tuple [first]
    let (rest, _) ← commaList (starNamed g) moreStarred
    op ")"
    return .tuple (first :: rest)
  if isStarred first then unexpected
  op ")"
  return first

/-- What follows an opening bracket. -/
def bracketed (g : Nested) : Parse Expr := do
  if ← acceptOp "]" then return .list []
  let first ← starNamed g
  if !isStarred first && (← nextIsClause) then
    let cs ← clauses g
    op "]"
    return .comprehension .list first cs
  let rest ←
    if ← acceptOp "," then
      if ← moreStarred then pure (← commaList (starNamed g) moreStarred).1 else pure []
    else pure []
  op "]"
  return .list (first :: rest)

/-- One item of a dictionary. -/
def dictItem (g : Nested) : Parse (Option Expr × Expr) := do
  if ← acceptOp "**" then return (none, ← g.bitOr)
  let key ← g.expression
  op ":"
  return (some key, ← g.expression)

/-- The next token can start an item of a dictionary. -/
def moreItems : Parse Bool := do
  let t ← peek
  return startsExpression t || t == .op "**"

/-- The items of a dictionary after the first one, and the closing brace. -/
def dictRest (g : Nested) (first : Option Expr × Expr) : Parse Expr := do
  let rest ←
    if ← acceptOp "," then
      if ← moreItems then pure (← commaList (dictItem g) moreItems).1 else pure []
    else pure []
  op "\x7d"
  return .dict (first :: rest)

/-- What follows an opening brace. -/
def braced (g : Nested) : Parse Expr := do
  if ← acceptOp "\x7d" then return .dict []
  if ← acceptOp "**" then dictRest g (none, ← g.bitOr)
  else
    let isNamed ← nextIsNamed
    let first ← starNamed g
    if !isStarred first && !isNamed && (← nextIsOp ":") then
      skip
      let value ← g.expression
      if ← nextIsClause then
        let cs ← clauses g
        op "\x7d"
        return .dictComprehension first value cs
      else dictRest g (some first, value)
    else if !isStarred first && (← nextIsClause) then
      let cs ← clauses g
      op "\x7d"
      return .comprehension .set first cs
    else
      let rest ←
        if ← acceptOp "," then
          if ← moreStarred then pure (← commaList (starNamed g) moreStarred).1 else pure []
        else pure []
      op "\x7d"
      return .set (first :: rest)

/-! ## Strings -/

/-- A malformed literal. -/
def badLiteral {α : Type} : Parse α := miss .literal true

/-- The result of a step that may be malformed. -/
def literal {α : Type} : Option α → Parse α
  | some a => return a
  | none => badLiteral

/-- The text of a formatted string up to the next brace, after the first `skip` characters: what
stands for the text, what follows, and whether the brace was doubled. Only outside of format
specifications can braces be doubled. -/
def plainPart (raw top : Bool) (skip : Nat) : List Char → Option (List Char × List Char × Bool)
  | [] => some ([], [], false)
  | c :: cs =>
    match skip with
    | skip + 1 => (plainPart raw top skip cs).map fun r => (c :: r.1, r.2)
    | 0 =>
      if c == '\\' && !raw then
        match cs with
        | 'N' :: '\x7b' :: rest =>
          let name := rest.takeWhile (· != '\x7d')
          (plainPart raw top (name.length + 3) cs).map fun r => (c :: r.1, r.2)
        | d :: _ =>
          let skip := if d == '\x7b' || d == '\x7d' then 0 else 1
          (plainPart raw top skip cs).map fun r => (c :: r.1, r.2)
        | [] => some ([c], [], false)
      else if c == '\x7b' || c == '\x7d' then
        if top && cs.head? == some c then some ([c], cs.drop 1, true)
        else if top && c == '\x7d' then none
        else some ([], c :: cs, false)
      else (plainPart raw top 0 cs).map fun r => (c :: r.1, r.2)

/-- Where the text of an expression in a formatted string ends, after the first `skip` characters.
`quote` is the end of the string that is open inside it. -/
def fieldText (stack : List Char) (quote : Option (List Char)) (skip : Nat) :
    List Char → Option (List Char × List Char)
  | [] => none
  | c :: cs =>
    let take := fun (r : Option (List Char × List Char)) => r.map fun r => (c :: r.1, r.2)
    match skip with
    | skip + 1 => take (fieldText stack quote skip cs)
    | 0 =>
      if c == '\\' then none
      else
        match quote with
        | some q =>
          if Text.startsWith q (c :: cs) then take (fieldText stack none (q.length - 1) cs)
          else take (fieldText stack quote 0 cs)
        | none =>
          if c == '"' || c == '\x27' then
            if Text.startsWith [c, c] cs then take (fieldText stack (some [c, c, c]) 2 cs)
            else take (fieldText stack (some [c]) 0 cs)
          else if c == '#' then none
          else if c == '(' || c == '[' || c == '\x7b' then
            if maxBrackets ≤ stack.length then none
            else take (fieldText (c :: stack) none 0 cs)
          else if stack.isEmpty && (c == '!' || c == '=' || c == '<' || c == '>') &&
              cs.head? == some '=' then
            take (fieldText stack none 1 cs)
          else if stack.isEmpty && (c == '!' || c == ':' || c == '\x7d' || c == '=') then
            some ([], c :: cs)
          else if c == ')' || c == ']' || c == '\x7d' then
            match stack with
            | b :: stack => if closing b == c then take (fieldText stack none 0 cs) else none
            | [] => none
          else take (fieldText stack none 0 cs)

/-- Blanks that do not make an expression. -/
def isPlainBlank (c : Char) : Bool :=
  c == ' ' || c == '\t' || c == '\n' || c == '\r' || c == '\x0c'

/-- Blanks that may follow the equals sign after an expression. -/
def isShownBlank (c : Char) : Bool :=
  isPlainBlank c || c == '\x0b'

/-- The expression that a text writes. -/
def subExpression (g : Nested) (cs : List Char) : Option Expr :=
  if cs.all isPlainBlank then none
  else
    match g.embedded (tokens ('(' :: cs ++ [')'])) with
    | .ok (e, _) => some e
    | .error _ => none

/-- The deepest format specification that can hold expressions of its own. -/
def maxSpecDepth : Nat := 2

/-- What the plain text of a string stands for. -/
def plainText (raw : Bool) (cs : List Char) : Option String :=
  if raw then some (String.ofList cs) else (unescape cs).map String.ofList

/-- A conversion after an expression in a formatted string, and what follows it. -/
def conversion? : List Char → Option (Option Char × List Char)
  | '!' :: c :: cs => if c == 's' || c == 'r' || c == 'a' then some (some c, cs) else none
  | '!' :: [] => none
  | cs => some (none, cs)

/-- A text as a part of a formatted string; the empty text is no part. -/
def textPart (s : String) : List Expr :=
  if s.isEmpty then [] else [.constant (.text s)]

mutual

/-- The parts of a formatted string, and what follows them. -/
def formattedParts (g : Nested) (raw : Bool) (depth : Nat) :
    (fuel : Nat) → List Char → Option (List Expr × List Char)
  | 0, _ => none
  | n + 1, cs => do
    let (plain, rest, doubled) ← plainPart raw (depth == 0) 0 cs
    let text := textPart (← plainText raw plain)
    if doubled then
      let (parts, rest) ← formattedParts g raw depth n rest
      return (text ++ parts, rest)
    else
      match rest with
      | '\x7b' :: inside =>
        let (field, rest) ← formattedField g raw depth n inside
        let (parts, rest) ← formattedParts g raw depth n rest
        return (text ++ field ++ parts, rest)
      | _ => return (text, rest)

/-- An expression in braces after the opening one, and what follows the closing one. -/
def formattedField (g : Nested) (raw : Bool) (depth : Nat) :
    (fuel : Nat) → List Char → Option (List Expr × List Char)
  | 0, _ => none
  | n + 1, cs => do
    if maxSpecDepth ≤ depth then none
    let (source, rest) ← fieldText [] none 0 cs
    let value ← subExpression g source
    let (shown, rest) :=
      match rest with
      | '=' :: after =>
        let blanks := after.takeWhile isShownBlank
        (some (source ++ '=' :: blanks), after.dropWhile isShownBlank)
      | _ => (none, rest)
    let (conversion, rest) ← conversion? rest
    let (spec, rest) ←
      match rest with
      | ':' :: after =>
        (formattedParts g raw (depth + 1) n after).map fun r => (some (Expr.joined r.1), r.2)
      | _ => some (none, rest)
    match rest with
    | '\x7d' :: after =>
      let conversion :=
        if shown.isSome && conversion.isNone && spec.isNone then some 'r' else conversion
      let label := textPart (String.ofList (shown.getD []))
      return (label ++ [.formatted value conversion spec], after)
    | _ => none

end

/-- Neighbouring texts as one. -/
def mergeTexts : List Expr → List Expr
  | .constant (.text a _) :: rest =>
    match mergeTexts rest with
    | .constant (.text b _) :: rest => .constant (.text (a ++ b)) :: rest
    | rest => .constant (.text a) :: rest
  | e :: rest => e :: mergeTexts rest
  | [] => []

/-- The parts of a string literal that holds text. -/
def textParts (g : Nested) (s : StringLiteral) : Option (List Expr) :=
  if s.formatted then
    match formattedParts g s.raw 0 (2 * s.body.length + 2) s.body with
    | some (parts, []) => some parts
    | _ => none
  else (plainText s.raw s.body).map textPart

/-- The value of string literals that stand one after another. -/
def stringValue (g : Nested) (ss : List StringLiteral) : Option Expr :=
  if ss.any (·.bytes) then
    if ss.all (·.bytes) then
      (ss.mapM fun s => unescapeBytes s.raw s.body).map fun bs =>
        .constant (.bytes bs.flatten)
    else none
  else
    (ss.mapM (textParts g)).map fun parts =>
      let parts := mergeTexts parts.flatten
      let marked := ss.head?.any (·.marked)
      if ss.any (·.formatted) then .joined parts
      else
        match parts with
        | [.constant (.text s _)] => .constant (.text s marked)
        | _ => .constant (.text "" marked)

/-- String literals that stand one after another. -/
def strings (g : Nested) : Parse Expr := do
  let ss ← many do
    match ← peek with
    | .string s =>
      skip
      return some s
    | _ => return none
  literal (stringValue g ss)

/-! ## Primaries -/

/-- An atom. -/
def atom (g : Nested) : Parse Expr := do
  match ← peek with
  | .name _ => return .name (← name)
  | .number n =>
    skip
    return .constant (.number n)
  | .longNumber => badLiteral
  | .string _ => strings g
  | .keyword "None" =>
    skip
    return .constant .none
  | .keyword "True" =>
    skip
    return .constant .true
  | .keyword "False" =>
    skip
    return .constant .false
  | .op "..." =>
    skip
    return .constant .ellipsis
  | .op "(" =>
    skip
    parenthesized g
  | .op "[" =>
    skip
    bracketed g
  | .op "\x7b" =>
    skip
    braced g
  | _ => unexpected

/-- The arguments of a call: those by position, with stars or without, and those by name, where two
stars stand for no name. -/
structure Arguments where
  args : List Expr
  keywords : List (Option String × Expr)

/-- How far a list of arguments has got: a plain argument must not follow one by name, and a starred
one must not follow one with two stars. -/
inductive Stage
  | plain
  | named
  | doubleStarred
  deriving DecidableEq

/-- One argument: added to those before it, with the stage after it. -/
def argument (g : Nested) (got : Arguments) (stage : Stage) : Parse (Arguments × Stage) := do
  if ← nextIsOp "*" then
    if stage == .doubleStarred then unexpected
    skip
    let e ← g.expression
    return ({ got with args := got.args ++ [.starred e] }, stage)
  if ← acceptOp "**" then
    let e ← g.expression
    return ({ got with keywords := got.keywords ++ [(none, e)] }, .doubleStarred)
  match ← peek with
  | .name _ =>
    if (← peekSecond) == .op "=" then
      let s ← name
      skip
      let e ← g.expression
      let stage := if stage == .plain then .named else stage
      return ({ got with keywords := got.keywords ++ [(some s, e)] }, stage)
    else plain
  | _ => plain
where
  /-- An argument by position. -/
  plain : Parse (Arguments × Stage) := do
    if stage != .plain then unexpected
    let e ← namedArgument g
    if ← nextIsOp "=" then unexpected
    return ({ got with args := got.args ++ [e] }, stage)

/-- Arguments up to the closing parenthesis, which is not taken. -/
def argumentsFrom (g : Nested) (got : Arguments) (stage : Stage) : Nat → Parse Arguments
  | 0 => return got
  | n + 1 => do
    if ← nextIsOp ")" then return got
    let (got, stage) ← argument g got stage
    if ← acceptOp "," then argumentsFrom g got stage n
    else if ← nextIsOp ")" then return got
    else unexpected

/-- Arguments up to the closing parenthesis, which is not taken. -/
def arguments (g : Nested) : Parse Arguments := fun ts =>
  argumentsFrom g ⟨[], []⟩ .plain (ts.length + 1) ts

/-- The next argument is one by position and without a star. -/
def nextIsPlain : Parse Bool := do
  match ← peek with
  | .op s => return s != "*" && s != "**" && s != ")"
  | .name _ => return (← peekSecond) != .op "="
  | _ => return true

/-- What follows the opening parenthesis of a call. A generator that is alone there needs no
parentheses of its own. -/
def callOf (g : Nested) (function : Expr) : Parse Expr := do
  if ← nextIsPlain then
    let e ← namedArgument g
    if ← nextIsClause then
      let cs ← clauses g
      op ")"
      return .call function [.comprehension .generator e cs] []
    else if ← acceptOp "," then finish ⟨[e], []⟩
    else
      op ")"
      return .call function [e] []
  else finish ⟨[], []⟩
where
  /-- The arguments after some of them, and the closing parenthesis. -/
  finish (got : Arguments) : Parse Expr := do
    let a ← (fun ts => argumentsFrom g got .plain (ts.length + 1) ts : Parse Arguments)
    op ")"
    return .call function a.args a.keywords

/-- An expression, unless a colon, a comma or a bracket stands here. -/
def optionalBound (g : Nested) : Parse (Option Expr) := do
  if ← moreExpressions then return some (← g.expression) else return none

/-- One index: a slice or an expression. -/
def index (g : Nested) : Parse Expr := do
  if ← nextIsOp ":" then sliceFrom none
  else
    let isNamed ← nextIsNamed
    let e ← namedExpression g
    if ← nextIsOp ":" then
      if isNamed then unexpected else sliceFrom (some e)
    else return e
where
  /-- A slice from its first colon on. -/
  sliceFrom (lower : Option Expr) : Parse Expr := do
    op ":"
    let upper ← optionalBound g
    let step ← if ← acceptOp ":" then optionalBound g else pure none
    return .slice lower upper step

/-- One index, or a starred one. -/
def starIndex (g : Nested) : Parse Expr := do
  if ← acceptOp "*" then return .starred (← g.expression) else index g

/-- The next token can start an index. -/
def moreIndices : Parse Bool := do
  let t ← peek
  return startsExpression t || t == .op "*" || t == .op ":"

/-- The indices up to the closing bracket. A starred index makes a tuple by itself. -/
def indices (g : Nested) : Parse Expr := do
  let (items, comma) ← commaList (starIndex g) moreIndices
  op "]"
  match items, comma with
  | [e], false => return if isStarred e then .tuple [e] else e
  | es, _ => return .tuple es

/-- What follows a primary, if something does. -/
def trailer? (g : Nested) (e : Expr) : Parse (Option Expr) := do
  if ← acceptOp "." then return some (.attribute e (← name))
  else if ← acceptOp "(" then return some (← callOf g e)
  else if ← acceptOp "[" then return some (.subscript e (← indices g))
  else return none

/-- A primary with all that follows it, at most `n` times. -/
def trailers (g : Nested) (e : Expr) : Nat → Parse Expr
  | 0 => return e
  | n + 1 => do
    match ← trailer? g e with
    | some e => trailers g e n
    | none => return e

/-- A primary: an atom with attributes, calls and indices. -/
def primary (g : Nested) : Parse Expr := do
  let e ← atom g
  fun ts => trailers g e (ts.length + 1) ts

/-! ## Operators -/

/-- A power, with an awaited base or a plain one. -/
def power (g : Nested) : Parse Expr := do
  let base ← if ← acceptWord "await" then pure (.await (← primary g)) else primary g
  if ← acceptOp "**" then return .binary .pow base (← g.exponent) else return base

/-- The operators before one operand. -/
def unaryOp? : Token → Option UnaryOp
  | .op "+" => some .plus
  | .op "-" => some .minus
  | .op "~" => some .invert
  | _ => none

/-- A power with operators before it. -/
def factor (g : Nested) : Parse Expr := do
  match unaryOp? (← peek) with
  | some o =>
    skip
    return .unary o (← g.factor)
  | none => power g

/-- The operators of each level between two operands, the tightest level first. -/
def binaryLevels : List (List (String × BinaryOp)) :=
  [[("*", .mul), ("/", .div), ("//", .floorDiv), ("%", .mod), ("@", .matMul)],
    [("+", .add), ("-", .sub)],
    [("<<", .shiftLeft), (">>", .shiftRight)],
    [("&", .bitAnd)],
    [("^", .bitXor)],
    [("|", .bitOr)]]

/-- The operator among those of a level that the token is. -/
def binaryOp? (ops : List (String × BinaryOp)) : Token → Option BinaryOp
  | .op s => (ops.find? (·.1 == s)).map (·.2)
  | _ => none

/-- Operands with operators of one level between them, from the left. -/
def binaryLevel (operand : Parse Expr) (ops : List (String × BinaryOp)) : Parse Expr := do
  let first ← operand
  let rest ← many do
    match binaryOp? ops (← peek) with
    | some o =>
      skip
      return some (o, ← operand)
    | none => return none
  return rest.foldl (fun e r => .binary r.1 e r.2) first

/-- An expression of operators between values. -/
def bitOr (g : Nested) : Parse Expr :=
  binaryLevels.foldl binaryLevel (factor g)

/-- A comparison that starts here, taken. -/
def compareOp? : Parse (Option CompareOp) := do
  match ← peek with
  | .op "==" => taken .eq
  | .op "!=" => taken .notEq
  | .op "<" => taken .lt
  | .op "<=" => taken .le
  | .op ">" => taken .gt
  | .op ">=" => taken .ge
  | .keyword "in" => taken .isIn
  | .keyword "is" =>
    skip
    return some (if ← acceptWord "not" then .isNot else .is)
  | .keyword "not" =>
    if (← peekSecond) == .keyword "in" then
      skip
      taken .notIn
    else return none
  | _ => return none
where
  /-- The comparison of one token. -/
  taken (o : CompareOp) : Parse (Option CompareOp) := do
    skip
    return some o

/-- A comparison, or a single operand. -/
def comparison (g : Nested) : Parse Expr := do
  let first ← bitOr g
  let rest ← many do
    match ← compareOp? with
    | some o => return some (o, ← bitOr g)
    | none => return none
  return if rest.isEmpty then first else .compare first rest

/-- The most levels of nesting that can be read. -/
def maxLevels : Nat := 5950

/-- How many times the keyword `not` stands here, all taken. -/
def nots : Parse Nat := do
  let ns ← many do
    if ← acceptWord "not" then return some () else return none
  if maxLevels < ns.length then miss .room true
  return ns.length

/-- A comparison with `not` before it any number of times. -/
def inversion (g : Nested) : Parse Expr := do
  let n ← nots
  let e ← comparison g
  return n.repeat (.unary .not) e

/-- Operands with one of the words `and`, `or` between them. -/
def boolLevel (operand : Parse Expr) (o : BoolOp) (s : String) : Parse Expr := do
  let first ← operand
  let rest ← many do
    if ← acceptWord s then return some (← operand) else return none
  return if rest.isEmpty then first else .bool o (first :: rest)

/-- Operands joined by `or` of operands joined by `and`. -/
def disjunction (g : Nested) : Parse Expr :=
  boolLevel (boolLevel (inversion g) .and "and") .or "or"

/-! ## Parameters -/

/-- How far a list of parameters has got. -/
structure ParameterState where
  got : List (Parameter Expr)
  slash : Bool
  star : Bool
  bareStar : Bool
  doubleStar : Bool
  defaults : Bool

/-- The state before the first parameter. -/
def ParameterState.start : ParameterState := ⟨[], false, false, false, false, false⟩

/-- The default of a parameter, if it has one. -/
def default? (g : Nested) : Parse (Option Expr) := do
  if ← acceptOp "=" then return some (← g.expression) else return none

/-- The annotation of a parameter, where annotations are allowed. -/
def hint? (g : Nested) (annotated starred : Bool) : Parse (Option Expr) := do
  unless annotated do return none
  unless ← acceptOp ":" do return none
  if starred then return some (← starExpression g) else return some (← g.expression)

/-- A single parameter between commas, or one of the marks `/` and `*`. -/
def parameter (g : Nested) (annotated : Bool) (s : ParameterState) : Parse ParameterState := do
  if s.doubleStar then unexpected
  match ← peek with
  | .op "/" =>
    if s.slash || s.star || s.got.isEmpty then unexpected
    skip
    return { s with
      slash := true
      got := s.got.map fun p => { p with kind := .positionalOnly } }
  | .op "*" =>
    if s.star then unexpected
    skip
    match ← peek with
    | .name _ =>
      let n ← name
      let a ← hint? g annotated true
      return { s with star := true, got := s.got ++ [⟨n, .variadic, a, none⟩] }
    | _ => return { s with star := true, bareStar := true }
  | .op "**" =>
    if s.bareStar then unexpected
    skip
    let n ← name
    let a ← hint? g annotated false
    return { s with doubleStar := true, got := s.got ++ [⟨n, .keywords, a, none⟩] }
  | _ =>
    let n ← name
    let a ← hint? g annotated false
    let d ← default? g
    if !s.star && s.defaults && d.isNone then unexpected
    let kind := if s.star then .keywordOnly else .positional
    return { s with
      bareStar := false
      defaults := s.defaults || (!s.star && d.isSome)
      got := s.got ++ [⟨n, kind, a, d⟩] }

/-- Parameters up to the operator that ends them, which is not taken. A bare star needs a parameter
after it. -/
def parametersFrom (g : Nested) (annotated : Bool) (last : String) (s : ParameterState) :
    Nat → Parse (List (Parameter Expr))
  | 0 => unexpected
  | n + 1 => do
    if ← nextIsOp last then finish s
    else
      let s ← parameter g annotated s
      if ← acceptOp "," then parametersFrom g annotated last s n
      else if ← nextIsOp last then finish s
      else unexpected
where
  /-- All parameters. -/
  finish (s : ParameterState) : Parse (List (Parameter Expr)) :=
    if s.bareStar then unexpected else return s.got

/-- Parameters up to the operator that ends them, which is not taken. -/
def parameters (g : Nested) (annotated : Bool) (last : String) :
    Parse (List (Parameter Expr)) := fun ts =>
  parametersFrom g annotated last .start (ts.length + 1) ts

/-! ## Expressions -/

/-- A `lambda`. -/
def lambdaExpression (g : Nested) : Parse Expr := do
  word "lambda"
  let params ← parameters g false ":"
  op ":"
  return .lambda params (← g.body)

/-- Names of statements of old that have become functions. -/
def formerStatements : List String := ["print", "exec"]

/-- A former statement: its name and values after it, without parentheses. -/
def formerStatement (g : Nested) : Parse Unit := do
  let s ← name
  if !formerStatements.contains s || (← nextIsOp "(") then unexpected
  let _ ← starExpressions g

/-- An expression. -/
def expression (g : Nested) : Parse Expr := do
  if g.wary then mistakeIf (formerStatement g)
  if ← nextIsWord "lambda" then lambdaExpression g
  else
    let e ← disjunction g
    if ← acceptWord "if" then
      let test ← disjunction g
      word "else"
      return .conditional test e (← g.expression)
    else return e

/-- The readers for `n` levels of nesting. -/
def nested (wary : Bool) : Nat → Nested
  | 0 => {
    wary := wary
    embedded := full
    expression := full
    body := full
    factor := full
    exponent := full
    bitOr := full
    disjunction := full
    primary := full }
  | n + 1 => {
    wary := wary
    embedded := fun ts => starExpressions (nested false n) ts
    expression := fun ts => expression (nested wary n) ts
    body := fun ts => (nested wary n).expression ts
    factor := fun ts => factor (nested wary n) ts
    exponent := fun ts => (nested wary n).factor ts
    bitOr := fun ts => bitOr (nested wary n) ts
    disjunction := fun ts => disjunction (nested wary n) ts
    primary := fun ts => primary (nested wary n) ts }
where
  /-- No level is left. -/
  full {α : Type} : Parse α := miss .room true

end Codebook.Source
