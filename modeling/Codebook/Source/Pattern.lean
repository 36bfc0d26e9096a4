import Codebook.Source.Expression

/-!
# Reading patterns

The patterns of the cases of a `match`. A pattern can be a value, a name that takes what it meets,
the wildcard, or a shape with patterns inside.
-/

namespace Codebook.Source

open Parse

/-- Names with dots between them, as an expression. -/
def dottedFrom (e : Expr) : Nat → Parse Expr
  | 0 => return e
  | n + 1 => do
    if ← acceptOp "." then dottedFrom (.attribute e (← name)) n else return e

/-- Names with dots between them, as an expression. -/
def dottedExpr : Parse Expr := do
  let s ← name
  fun ts => dottedFrom (.name s) (ts.length + 1) ts

/-- The number is imaginary. -/
def isImaginary : Number → Bool
  | .imaginary _ _ => true
  | _ => false

/-- A number with or without a sign. -/
def signedNumber : Parse (Expr × Bool) := do
  let negative ← acceptOp "-"
  match ← peek with
  | .number n =>
    skip
    let e := Expr.constant (.number n)
    return (if negative then .unary .minus e else e, isImaginary n)
  | _ => unexpected

/-- A number, or a real number with an imaginary part. -/
def numberPattern : Parse Expr := do
  let (real, imaginary) ← signedNumber
  let sign? := fun t : Token => match t with
    | .op "+" => some BinaryOp.add
    | .op "-" => some BinaryOp.sub
    | _ => none
  match sign? (← peek) with
  | none => return real
  | some o =>
    if imaginary then unexpected
    skip
    match ← peek with
    | .number n =>
      unless isImaginary n do unexpected
      skip
      return .binary o real (.constant (.number n))
    | _ => unexpected

/-- A literal that starts here, if one does. -/
def literalPattern? (g : Nested) : Parse (Option Expr) := do
  match ← peek with
  | .number _ => return some (← numberPattern)
  | .op "-" => return some (← numberPattern)
  | .string _ => return some (← strings g)
  | .keyword "None" =>
    skip
    return some (.constant .none)
  | .keyword "True" =>
    skip
    return some (.constant .true)
  | .keyword "False" =>
    skip
    return some (.constant .false)
  | _ => return none

/-- A name that takes what it meets; the wildcard and the start of a longer pattern are none. -/
def captureName : Parse String := do
  let s ← name
  if s == "_" then unexpected
  match ← peek with
  | .op o => if o == "." || o == "(" || o == "=" then unexpected else return s
  | _ => return s

/-- A starred name in a sequence; the wildcard takes no name. -/
def starName : Parse (Option String) := do
  if (← peek) == .name "_" then
    skip
    return none
  else return some (← captureName)

/-- The next token can start a pattern. -/
def morePatterns : Parse Bool := do
  match ← peek with
  | .name _ => return true
  | .number _ => return true
  | .string _ => return true
  | .op s => return ["-", "(", "[", "\x7b", "*", "**"].contains s
  | .keyword s => return ["None", "True", "False"].contains s
  | _ => return false

/-- The arguments of a class pattern. -/
structure PatternArguments where
  positional : List Pattern
  keywords : List (String × Pattern)

/-- One argument of a class pattern; those by position come first. -/
def patternArgument (pattern : Parse Pattern) (got : PatternArguments) :
    Parse PatternArguments := do
  match ← peek with
  | .name _ =>
    if (← peekSecond) == .op "=" then
      let s ← name
      skip
      return { got with keywords := got.keywords ++ [(s, ← pattern)] }
    else plain
  | _ => plain
where
  /-- An argument by position. -/
  plain : Parse PatternArguments := do
    unless got.keywords.isEmpty do unexpected
    return { got with positional := got.positional ++ [← pattern] }

/-- The arguments of a class pattern up to the closing parenthesis, which is taken. -/
def patternArguments (pattern : Parse Pattern) (got : PatternArguments) :
    Nat → Parse PatternArguments
  | 0 => unexpected
  | n + 1 => do
    if ← acceptOp ")" then return got
    let got ← patternArgument pattern got
    if ← acceptOp "," then patternArguments pattern got n
    else
      op ")"
      return got

/-- One item of a mapping pattern. -/
def mappingItem (g : Nested) (pattern : Parse Pattern) : Parse (Expr × Pattern) := do
  let key ←
    match ← literalPattern? g with
    | some e => pure e
    | none =>
      let e ← dottedExpr
      match e with
      | .name _ => unexpected
      | e => pure e
  op ":"
  return (key, ← pattern)

/-- The items of a mapping pattern up to the closing brace, which is taken. What is left goes to the
name after two stars, which comes last. -/
def mappingItems (g : Nested) (pattern : Parse Pattern) (got : List (Expr × Pattern)) :
    Nat → Parse Pattern
  | 0 => unexpected
  | n + 1 => do
    if ← acceptOp "\x7d" then return .mapping got none
    if ← acceptOp "**" then
      let rest ← captureName
      let _ ← acceptOp ","
      op "\x7d"
      return .mapping got (some rest)
    let got := got ++ [← mappingItem g pattern]
    if ← acceptOp "," then mappingItems g pattern got n
    else
      op "\x7d"
      return .mapping got none

/-- A pattern in a sequence, with a star or without. -/
def starPattern (pattern : Parse Pattern) : Parse Pattern := do
  if ← acceptOp "*" then return .star (← starName) else pattern

/-- Patterns in parentheses: one alone is itself, unless it has a star or a comma after it. -/
def groupPattern (pattern : Parse Pattern) : Parse Pattern := do
  if ← acceptOp ")" then return .sequence []
  let (items, comma) ← commaList (starPattern pattern) morePatterns
  op ")"
  match items, comma with
  | [.star _], false => unexpected
  | [p], false => return p
  | ps, _ => return .sequence ps

/-- A pattern that needs no parentheses around it. -/
def closedPattern (g : Nested) (pattern : Parse Pattern) : Parse Pattern := do
  match ← literalPattern? g with
  | some e => return .value e
  | none =>
    match ← peek with
    | .name _ =>
      let e ← dottedExpr
      if ← acceptOp "(" then
        let args ← (fun ts => patternArguments pattern ⟨[], []⟩ (ts.length + 1) ts :
          Parse PatternArguments)
        return .shape e args.positional args.keywords
      if ← nextIsOp "=" then unexpected
      match e with
      | .name "_" => return .wildcard
      | .name s => return .capture s
      | e => return .value e
    | .op "(" =>
      skip
      groupPattern pattern
    | .op "[" =>
      skip
      if ← acceptOp "]" then return .sequence []
      let (items, _) ← commaList (starPattern pattern) morePatterns
      op "]"
      return .sequence items
    | .op "\x7b" =>
      skip
      fun ts => mappingItems g pattern [] (ts.length + 1) ts
    | _ => unexpected

/-- Alternatives of closed patterns, with a name for what they meet. -/
def patternOf (closed : Parse Pattern) : Parse Pattern := do
  let first ← closed
  let rest ← many do
    if ← acceptOp "|" then return some (← closed) else return none
  let p := if rest.isEmpty then first else .either (first :: rest)
  if ← acceptWord "as" then return .named p (← captureName) else return p

/-- A pattern with at most `n` levels of nesting. -/
def pattern (g : Nested) : Nat → Parse Pattern
  | 0 => unexpected
  | n + 1 => patternOf (closedPattern g (fun ts => pattern g n ts))

/-- The pattern of a case: one pattern, or several with commas between them. -/
def patterns (g : Nested) : Parse Pattern := fun ts =>
  let one : Parse Pattern := fun us => pattern g ts.length us
  let all : Parse Pattern := do
    let (items, comma) ← commaList (starPattern one) morePatterns
    match items, comma with
    | [.star _], false => unexpected
    | [p], false => return p
    | ps, _ => return .sequence ps
  all ts

end Codebook.Source
