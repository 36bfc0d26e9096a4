import Codebook.Source.Token
import Codebook.Text.Normal

/-!
# Reading tokens

A reader takes tokens from the front of a list. It fails at a token, and of several attempts the
failure that got furthest counts. A failure inside a literal, or at a fault of the text itself, is
final: no other attempt is made after it.
-/

namespace Codebook.Source

/-- What a reader missed where it failed: a token, a block, a handler after a `try`, a well-formed
literal, the sense of what it took for a mistake, or the room for another level of nesting. -/
inductive Miss
  | token
  | block
  | handler
  | literal
  | mistake
  | room
  deriving DecidableEq, Repr

/-- A failure: what was missed, and how many tokens were left. -/
structure Failure where
  miss : Miss
  left : Nat
  final : Bool
  deriving DecidableEq, Repr

/-- A reader of tokens. -/
abbrev Parse := StateT (List Token) (Except Failure)

namespace Parse

/-- Failure at the next token. -/
def miss {α : Type} (m : Miss) (final : Bool) : Parse α := fun ts =>
  .error ⟨m, ts.length, final⟩

/-- Failure because of the next token. -/
def unexpected {α : Type} : Parse α := fun ts =>
  match ts with
  | .fault _ :: _ => .error ⟨.token, ts.length, true⟩
  | _ => .error ⟨.token, ts.length, false⟩

/-- The next token, not taken. -/
def peek : Parse Token := fun ts =>
  .ok (ts.headD .stop, ts)

/-- The token after the next one, not taken. -/
def peekSecond : Parse Token := fun ts =>
  .ok (ts.tail.headD .stop, ts)

/-- Takes the next token. -/
def skip : Parse Unit := fun ts =>
  .ok ((), ts.tail)

/-- Takes the next token if it is the given one. -/
def accept (t : Token) : Parse Bool := do
  if (← peek) == t then
    skip
    return true
  else return false

/-- Takes the given token. -/
def expect (t : Token) : Parse Unit := do
  unless ← accept t do unexpected

/-- Takes an operator if it is the next token. -/
def acceptOp (s : String) : Parse Bool := accept (.op s)

/-- Takes an operator. -/
def op (s : String) : Parse Unit := expect (.op s)

/-- Takes a keyword if it is the next token. -/
def acceptWord (s : String) : Parse Bool := accept (.keyword s)

/-- Takes a keyword. -/
def word (s : String) : Parse Unit := expect (.keyword s)

/-- The next token is the given operator. -/
def nextIsOp (s : String) : Parse Bool := do
  return (← peek) == .op s

/-- The next token is the given keyword. -/
def nextIsWord (s : String) : Parse Bool := do
  return (← peek) == .keyword s

/-- Takes a name, in the form that stands for all its spellings. -/
def name : Parse String := do
  match ← peek with
  | .name s =>
    skip
    return Text.normal s
  | _ => unexpected

/-- The first reader, or the second where the first fails; both from the same token. -/
def orElse {α : Type} (p q : Parse α) : Parse α := fun ts =>
  match p ts with
  | .ok r => .ok r
  | .error e =>
    if e.final then .error e
    else
      match q ts with
      | .ok r => .ok r
      | .error f => .error (if !f.final && e.left < f.left then e else f)

/-- What the reader gives until it gives nothing, at most `n` times. -/
def manyUpTo {α : Type} (p : Parse (Option α)) : Nat → Parse (List α)
  | 0 => return []
  | n + 1 => do
    match ← p with
    | some a => return a :: (← manyUpTo p n)
    | none => return []

/-- What the reader gives until it gives nothing. -/
def many {α : Type} (p : Parse (Option α)) : Parse (List α) := fun ts =>
  manyUpTo p (ts.length + 1) ts

/-- Items with commas between them, and whether a comma follows the last one. `more` says whether an
item can start here. -/
def commaList {α : Type} (item : Parse α) (more : Parse Bool) : Parse (List α × Bool) := do
  let first ← item
  let rest ← many do
    if ← nextIsOp "," then
      let after ← (fun ts => (more ts.tail).map fun r => (r.1, ts) : Parse Bool)
      if after then
        skip
        return some (← item)
      else return none
    else return none
  let trailing ← acceptOp ","
  return (first :: rest, trailing)

end Parse

end Codebook.Source
