import Codebook.Source.Token
import Codebook.Text.Identifier
import Codebook.Text.Integer
import Codebook.Text.Lower
import Codebook.Text.Part
import Codebook.Text.Printable

/-!
# From text to tokens

The text is read line by line. Inside brackets, line ends and indentation mean nothing. Elsewhere
the indentation of each line that holds something is compared with that of the lines around it, once
with tabs to every eighth column and once with tabs one column wide: the two must agree.

`Source.tokens` gives the tokens of a text whose line ends are line feeds.
-/

namespace Codebook.Source

open Text

/-! ## Numbers -/

/-- What was read, and the rest of the text; nothing if it is malformed. -/
abbrev Cut (α : Type) := Option (α × List Char)

/-- Digits with single underscores between them, up to the first character that is neither. -/
def digitRun (isDigit : Char → Bool) : List Char → Cut (List Char)
  | [] => some ([], [])
  | c :: cs =>
    if isDigit c then (digitRun isDigit cs).map fun r => (c :: r.1, r.2)
    else if c == '_' then
      match cs with
      | d :: _ => if isDigit d then digitRun isDigit cs else none
      | [] => none
    else some ([], c :: cs)

/-- The value of a digit in a base up to sixteen. -/
def digitOf (c : Char) : Nat :=
  if c.isDigit then c.toNat - 48
  else if 'a' ≤ c && c ≤ 'f' then c.toNat - 87
  else c.toNat - 55

/-- The number that digits write. -/
def valueOf (base : Nat) (digits : List Char) : Nat :=
  digits.foldl (fun n c => n * base + digitOf c) 0

/-- Words that may follow a number without a blank. -/
def wordsAfterNumber : List (List Char) :=
  ["and", "else", "for", "if", "in", "is", "or"].map String.toList

/-- Characters that can belong to a name, before they are looked at closely. -/
def isNameChar (c : Char) : Bool :=
  c.isAlphanum || c == '_' || 128 ≤ c.toNat

/-- A number may end before this text. -/
def numberEnds (cs : List Char) : Bool :=
  wordsAfterNumber.any (startsWith · cs) || !(cs.head?.any isNameChar)

/-- A digit of a base. -/
def isDigitOf (base : Nat) (c : Char) : Bool :=
  (c.isDigit || ('a' ≤ c && c ≤ 'f') || ('A' ≤ c && c ≤ 'F')) && digitOf c < base

/-- A whole number in the given base, after the two characters that announce it. -/
def basedNumber (base : Nat) (cs : List Char) : Cut Number :=
  let cs := if cs.head? == some '_' then cs.tail else cs
  if cs.head?.any (isDigitOf base) then
    match digitRun (isDigitOf base) cs with
    | some (digits, rest) =>
      if rest.head?.any Char.isDigit || !numberEnds rest then none
      else some (.int (valueOf base digits), rest)
    | none => none
  else none

/-- The digits after a decimal point, if there is a point. -/
def fraction : List Char → Cut (Option (List Char))
  | '.' :: cs => (digitRun Char.isDigit cs).bind fun r =>
    if cs.head? == some '_' then some (some [], cs) else some (some r.1, r.2)
  | cs => some (none, cs)

/-- An exponent, if there is one. A letter `e` that starts a word may follow the number. -/
def exponent (cs : List Char) : Cut (Option Int) :=
  match cs with
  | e :: rest =>
    if e == 'e' || e == 'E' then
      let (sign, digits) : Option Int × List Char :=
        match rest with
        | '+' :: ds => (some 1, ds)
        | '-' :: ds => (some (-1), ds)
        | ds => (none, ds)
      if digits.head?.any Char.isDigit then
        (digitRun Char.isDigit digits).map fun r => (some (sign.getD 1 * valueOf 10 r.1), r.2)
      else if sign.isNone && numberEnds cs then some (none, cs)
      else none
    else some (none, cs)
  | [] => some (none, cs)

/-- A number from its first digit or point on. -/
def decimalNumber (cs : List Char) : Option (Number × List Char) := do
  let start : Option (List Char × List Char) :=
    if cs.head? == some '.' then some ([], cs) else digitRun Char.isDigit cs
  let (whole, rest) ← start
  let (part, rest) ← (fraction rest : Option (Option (List Char) × List Char))
  let (power, rest) ← (exponent rest : Option (Option Int × List Char))
  let digits := valueOf 10 (whole ++ part.getD [])
  let scale := power.getD 0 - (part.getD []).length
  match rest with
  | c :: after =>
    if c == 'j' || c == 'J' then
      if numberEnds after then some (.imaginary digits scale, after) else none
    else if !numberEnds rest then none
    else number whole part power digits scale rest
  | [] => number whole part power digits scale rest
where
  /-- A number without imaginary unit. A whole number must not start with a zero, unless it is
  zero. -/
  number (whole : List Char) (part : Option (List Char)) (power : Option Int) (digits : Nat)
      (scale : Int) (rest : List Char) : Cut Number :=
    if part.isNone && power.isNone then
      if whole.head? == some '0' && digits != 0 then none else some (.int digits, rest)
    else some (.decimal digits scale, rest)

/-- The number at the start of a text that starts with a digit or with a point and a digit. -/
def numberAt (cs : List Char) : Cut Number :=
  match cs with
  | '0' :: c :: rest =>
    match c with
    | 'x' => basedNumber 16 rest
    | 'X' => basedNumber 16 rest
    | 'o' => basedNumber 8 rest
    | 'O' => basedNumber 8 rest
    | 'b' => basedNumber 2 rest
    | 'B' => basedNumber 2 rest
    | _ => decimalNumber cs
  | cs => decimalNumber cs

/-- The token of a number that stands at the start of a text. The digits of a number are limited
only if it is decimal. -/
def numberToken (cs : List Char) (n : Number) : Token :=
  match n with
  | .int k =>
    if Nat.pow 10 digitLimit ≤ k && !(cs.tail.head?.any Char.isAlpha) then .longNumber
    else .number n
  | _ => .number n

/-! ## Strings -/

/-- The characters up to the quote that ends a string on one line, and what follows it. -/
def shortString (quote : Char) : List Char → Cut (List Char)
  | [] => none
  | '\\' :: c :: cs => (shortString quote cs).map fun r => ('\\' :: c :: r.1, r.2)
  | c :: cs =>
    if c == quote then some ([], cs)
    else if c == '\n' then none
    else (shortString quote cs).map fun r => (c :: r.1, r.2)

/-- The characters up to the three quotes that end a string of several lines. -/
def longString (quote : Char) : List Char → Cut (List Char)
  | [] => none
  | '\\' :: c :: cs => (longString quote cs).map fun r => ('\\' :: c :: r.1, r.2)
  | c :: cs =>
    if c == quote && startsWith [quote, quote] cs then some ([], cs.drop 2)
    else (longString quote cs).map fun r => (c :: r.1, r.2)

/-- The string after its first quote. -/
def stringBody (quote : Char) (cs : List Char) : Cut (List Char) :=
  if startsWith [quote, quote] cs then longString quote (cs.drop 2)
  else shortString quote cs

/-- The combinations of letters that may stand before a string. -/
def stringLetters : List String :=
  ["", "b", "u", "r", "f", "br", "rb", "fr", "rf"]

/-- A string whose letters and first quote have been read. -/
def stringAt (letters : String) (quote : Char) (cs : List Char) : Cut StringLiteral :=
  let has := fun c : Char => letters.toList.any (·.toLower == c)
  (stringBody quote cs).map fun r =>
    (⟨has 'r', has 'b', has 'f', letters == "u", r.1⟩, r.2)

/-! ## Operators -/

/-- All operators of more than one character, the longest first. -/
def longOperators : List (List Char) :=
  ["**=", "//=", ">>=", "<<=", "...", "!=", "%=", "&=", "**", "*=", "+=", "-=", "->", "//", "/=",
    ":=", "<<", "<=", "<>", "==", ">=", ">>", "@=", "^=", "|="].map String.toList

/-- The operator at the start of a text, of which the first character is given. A character that no
operator has makes an operator of its own, which nothing accepts. -/
def operatorAt (c : Char) (cs : List Char) : List Char × List Char :=
  match longOperators.find? (startsWith · (c :: cs)) with
  | some op => (op, (c :: cs).drop op.length)
  | none => ([c], cs)

/-! ## Lines -/

/-- The state between tokens: the indentations that are open, each in both counts, the brackets that
are open, and whether a line starts here. -/
structure Lexer where
  indents : List (Nat × Nat)
  brackets : List Char
  lineStart : Bool

/-- The most indentations that can be open, the outermost counted. -/
def maxIndents : Nat := 100

/-- The most brackets that can be open. -/
def maxBrackets : Nat := 200

/-- The indentation at the start of a line in both counts, and the rest of the line. A line may be
continued by a backslash before its first word; the column of the first backslash then counts. -/
def indentation (col alt cont : Nat) : List Char → Except LexFault (Nat × Nat × List Char)
  | [] => .ok (finish col alt [])
  | ' ' :: cs => indentation (col + 1) (alt + 1) cont cs
  | '\t' :: cs => indentation ((col / 8 + 1) * 8) (alt + 1) cont cs
  | '\x0c' :: cs => indentation 0 0 cont cs
  | '\\' :: '\n' :: [] => .error .endOfText
  | '\\' :: '\n' :: c :: cs => indentation col alt (if cont == 0 then col else cont) (c :: cs)
  | '\\' :: _ => .error .continuation
  | c :: cs => .ok (finish col alt (c :: cs))
where
  /-- The counts that hold. -/
  finish (col alt : Nat) (cs : List Char) : Nat × Nat × List Char :=
    if cont == 0 then (col, alt, cs) else (cont, cont, cs)

/-- The indentations left when those deeper than a column are closed, and how many were closed. -/
def closeIndents (col : Nat) : List (Nat × Nat) → List (Nat × Nat) × Nat
  | [] => ([], 0)
  | (c, a) :: is =>
    if col < c && !is.isEmpty then
      let r := closeIndents col is
      (r.1, r.2 + 1)
    else ((c, a) :: is, 0)

/-- The tokens that the indentation of a line makes, and the indentations open after it. -/
def indentTokens (indents : List (Nat × Nat)) (col alt : Nat) :
    Except LexFault (List Token × List (Nat × Nat)) :=
  let (c, a) := indents.headD (0, 0)
  if col == c then
    if alt == a then .ok ([], indents) else .error .tabs
  else if c < col then
    if maxIndents ≤ indents.length then .error .tooDeep
    else if alt ≤ a then .error .tabs
    else .ok ([.indent], (col, alt) :: indents)
  else
    let (indents, n) := closeIndents col indents
    let (c, a) := indents.headD (0, 0)
    if col != c then .error .dedent
    else if alt != a then .error .tabs
    else .ok (List.replicate n .dedent, indents)

/-- The bracket that closes another. -/
def closing : Char → Char
  | '(' => ')'
  | '[' => ']'
  | _ => '\x7d'

/-- The brackets open after an operator. -/
def brackets? (brackets : List Char) (op : List Char) : Option (List Char) :=
  match op with
  | [c] =>
    if c == '(' || c == '[' || c == '\x7b' then
      if maxBrackets ≤ brackets.length then none else some (c :: brackets)
    else if c == ')' || c == ']' || c == '\x7d' then
      match brackets with
      | b :: bs => if closing b == c then some bs else none
      | [] => none
    else some brackets
  | _ => some brackets

/-- The word or the string with letters before it at the start of a text. -/
def wordAt? (cs : List Char) : Cut Token :=
  let word := cs.takeWhile isNameChar
  let rest := cs.dropWhile isNameChar
  let letters := String.ofList (word.map Char.toLower)
  match rest with
  | q :: after =>
    if (q == '"' || q == '\x27') && stringLetters.contains letters then
      (stringAt (String.ofList word) q after).map fun r => (.string r.1, r.2)
    else name word rest
  | [] => name word rest
where
  /-- A word that is a name or a keyword. -/
  name (word rest : List Char) : Cut Token :=
    if isIdentifier word then some (.word (String.ofList word), rest) else none

/-- A token that may be malformed, and those of the text after it. -/
def continueAfter {α : Type} (more : List Char → List Token) (token : α → Token) :
    Cut α → List Token
  | none => [.fault .malformed]
  | some (a, rest) => token a :: more rest

/-- The tokens of a text from a state on. -/
def tokensFrom : (fuel : Nat) → Lexer → List Char → List Token
  | 0, _, _ => [.fault .malformed]
  | n + 1, s, cs =>
    if s.lineStart then
      match indentation 0 0 0 cs with
      | .error f => [.fault f]
      | .ok (col, alt, rest) =>
        match rest with
        | '\n' :: rest => tokensFrom n s rest
        | '#' :: rest => tokensFrom n s ((rest.dropWhile (· != '\n')).drop 1)
        | [] => List.replicate (s.indents.length - 1) .dedent ++ [.stop]
        | _ =>
          match indentTokens s.indents col alt with
          | .error f => [.fault f]
          | .ok (ts, indents) =>
            ts ++ tokensFrom n { s with indents := indents, lineStart := false } rest
    else
      match cs with
      | [] => [.fault .endOfText]
      | '\n' :: rest =>
        if s.brackets.isEmpty then .newline :: tokensFrom n { s with lineStart := true } rest
        else tokensFrom n s rest
      | '#' :: rest => tokensFrom n s (rest.dropWhile (· != '\n'))
      | '\\' :: '\n' :: rest => if rest.isEmpty then [.fault .endOfText] else tokensFrom n s rest
      | '\\' :: _ => [.fault .continuation]
      | c :: rest =>
        if c == ' ' || c == '\t' || c == '\x0c' then tokensFrom n s rest
        else if c.isDigit || (c == '.' && rest.head?.any Char.isDigit) then
          continueAfter (tokensFrom n s) (numberToken cs) (numberAt cs)
        else if isNameChar c then continueAfter (tokensFrom n s) id (wordAt? cs)
        else if c == '"' || c == '\x27' then
          continueAfter (tokensFrom n s) .string (stringAt "" c rest)
        else if !isPrintable c then [.fault .malformed]
        else
          let (op, rest) := operatorAt c rest
          match brackets? s.brackets op with
          | none => [.fault .malformed]
          | some bs => .op (String.ofList op) :: tokensFrom n { s with brackets := bs } rest

/-- The text with a line feed at its end. -/
def endLine (cs : List Char) : List Char :=
  if cs.isEmpty || cs.getLast? == some '\n' then cs else cs ++ ['\n']

/-- The tokens of a text. -/
def tokens (cs : List Char) : List Token :=
  tokensFrom (2 * cs.length + 4) ⟨[(0, 0)], [], true⟩ (endLine cs)

end Codebook.Source
