import Codebook.Regex.Basic
import Codebook.Text.CharacterName
import Codebook.Text.Identifier

/-!
# Reading regular expressions

An expression is read token by token, where a backslash and the character after it are one token.
Every fault is reported at the place where reading notices it; a backslash at the very end is
noticed as soon as the token before it is taken.

`Regex.parse` is the reader: it gives the expression together with the switches that hold for all
of it.
-/

namespace Codebook.Regex

open Text

/-! ## Tokens and the state of the reader -/

/-- A character, or a backslash and the character after it, with its place. -/
structure Token where
  position : Nat
  text : List Char
  deriving Repr

/-- The tokens of a text that starts at `position`. -/
def tokensFrom (position : Nat) : List Char → List Token
  | [] => []
  | '\\' :: c :: cs => ⟨position, ['\\', c]⟩ :: tokensFrom (position + 2) cs
  | c :: cs => ⟨position, [c]⟩ :: tokensFrom (position + 1) cs

/-- The state of the reader: what is left, the next group number, the names of groups, the widths of
the groups that are closed, the switches set so far, the first group number of the enclosing
look-behind, and the places of references to groups that may come later. -/
structure Reader where
  pattern : String
  size : Nat
  rest : List Token
  groups : Nat
  names : List (String × Nat)
  widths : List (Nat × Width)
  flags : Flags
  lookbehind : Option Nat
  references : List (Nat × Nat)

/-- A step of the reader. -/
abbrev Read := StateT Reader (Except Error)

/-- The place of the next token. -/
def tell : Read Nat := do
  let s ← get
  match s.rest with
  | t :: _ => pure t.position
  | [] => pure s.size

/-- A fault at a place. -/
def failAt {α : Type} (fault : Fault) (position : Nat) : Read α := do
  throw (.malformed fault (some position) (← get).pattern)

/-- A fault `back` characters before the next token. -/
def fail {α : Type} (fault : Fault) (back : Nat) : Read α := do
  failAt fault ((← tell) - back)

/-- A lone backslash cannot become the next token. -/
def checkNext : Read Unit := do
  let s ← get
  match s.rest with
  | ⟨_, ['\\']⟩ :: _ => failAt .escapeAtEnd (s.size - 1)
  | _ => pure ()

/-- The next token, not taken. -/
def peek : Read (Option (List Char)) := do
  match (← get).rest with
  | t :: _ => pure (some t.text)
  | [] => pure none

/-- The next token, taken. -/
def take : Read (Option (List Char)) := do
  let s ← get
  match s.rest with
  | t :: ts =>
    modify fun s => { s with rest := ts }
    checkNext
    pure (some t.text)
  | [] => pure none

/-- Takes the next token if it is the given character. -/
def accept (c : Char) : Read Bool := do
  if (← peek) == some [c] then
    let _ ← take
    pure true
  else pure false

/-- Takes at most `n` tokens that are single characters of a class. -/
def takeWhile (p : Char → Bool) : Nat → Read (List Char)
  | 0 => pure []
  | n + 1 => do
    match ← peek with
    | some [c] =>
      if p c then
        let _ ← take
        return c :: (← takeWhile p n)
      else return []
    | _ => return []

/-- Takes what stands before `terminator`, and the terminator; `what` names it in a fault. -/
def takeUntil (terminator : Char) (what : String) (got : List Char) : Nat → Read (List Char)
  | 0 => pure got
  | n + 1 => do
    match ← take with
    | none =>
      if got.isEmpty then fail (.missingName what) 0
      else fail (.unterminatedName (String.singleton terminator)) got.length
    | some t =>
      if t == [terminator] then
        if got.isEmpty then fail (.missingName what) 1 else pure got
      else takeUntil terminator what (got ++ t) n

/-- The text before `terminator`. -/
def nameUntil (terminator : Char) (what : String) : Read (List Char) := do
  takeUntil terminator what [] ((← get).rest.length + 1)

/-! ## Widths -/

/-- Counts from here on are too large to be counted; as the greatest width it stands for any. -/
def repeatLimit : Nat := 4294967295

/-- A width within the bounds of what is counted. -/
def Width.clip (w : Width) : Width :=
  ⟨min w.least (repeatLimit - 1), min w.most repeatLimit⟩

/-- The width of one expression or another. -/
def Width.or (a b : Width) : Width :=
  ⟨min a.least b.least, max a.most b.most⟩

mutual

/-- The width of an expression, given those of the groups it refers to. -/
def width (groups : List (Nat × Width)) : Regex → Width
  | .code _ => ⟨1, 1⟩
  | .any => ⟨1, 1⟩
  | .set _ _ => ⟨1, 1⟩
  | .place _ => ⟨0, 0⟩
  | .seq items => widthAll groups items
  | .alt branches => widthAny groups branches
  | .group _ _ _ body => width groups body
  | .rep least most _ body =>
    let w := width groups body
    Width.clip ⟨least * w.least, most.getD repeatLimit * w.most⟩
  | .same i => ((groups.find? (·.1 == i)).map (·.2)).getD ⟨0, 0⟩
  | .look _ _ _ => ⟨0, 0⟩
  | .atomic body => width groups body
  | .given _ yes no => (width groups yes).or (width groups no)

/-- The width of expressions one after another. -/
def widthAll (groups : List (Nat × Width)) : List Regex → Width
  | [] => ⟨0, 0⟩
  | r :: rs =>
    let a := width groups r
    let b := widthAll groups rs
    Width.clip ⟨a.least + b.least, a.most + b.most⟩

/-- The width of expressions of which one is taken. -/
def widthAny (groups : List (Nat × Width)) : List Regex → Width
  | [] => ⟨0, 0⟩
  | [r] => width groups r
  | r :: rs => (width groups r).or (widthAny groups rs)

end

mutual

/-- The first thing in an expression that cannot be done: a look-behind of more than one width, or a
repetition in a template. -/
def misfit? (template : Bool) : Regex → Option Fault
  | .code _ => none
  | .any => none
  | .set _ _ => none
  | .place _ => none
  | .seq items => misfitIn template items
  | .alt branches => misfitIn template branches
  | .group _ _ _ body => misfit? template body
  | .rep _ _ mood body => if template then some (.templateRepeat mood) else misfit? template body
  | .same _ => none
  | .look behind _ body =>
    if behind.any fun w => w.least != w.most then some .variableLookbehind
    else misfit? template body
  | .atomic body => misfit? template body
  | .given _ yes no => (misfit? template yes).or (misfit? template no)

/-- The first thing in a list that cannot be done. -/
def misfitIn (template : Bool) : List Regex → Option Fault
  | [] => none
  | r :: rs => (misfit? template r).or (misfitIn template rs)

end

/-! ## Escapes -/

/-- A group is closed and can be referred to. -/
def checkGroup (index back : Nat) : Read Unit := do
  unless (← get).widths.any (·.1 == index) do fail .openGroup back

/-- Inside a look-behind, only groups from before it can be referred to. -/
def checkLookbehind (index : Nat) : Read Unit := do
  match (← get).lookbehind with
  | none => pure ()
  | some first =>
    checkGroup index 0
    if first ≤ index then fail .lookbehindGroup 0

/-- The value of a digit in a base up to sixteen. -/
def digitValue (c : Char) : Nat :=
  if c.isDigit then c.toNat - 48
  else if 'a' ≤ c && c ≤ 'f' then c.toNat - 87
  else c.toNat - 55

/-- The number that digits write. -/
def number (base : Nat) (digits : List Char) : Nat :=
  digits.foldl (fun n c => n * base + digitValue c) 0

/-- Hexadecimal digits. -/
def isHex (c : Char) : Bool :=
  c.isDigit || ('a' ≤ c && c ≤ 'f') || ('A' ≤ c && c ≤ 'F')

/-- Octal digits. -/
def isOctal (c : Char) : Bool :=
  '0' ≤ c && c ≤ '7'

/-- The members that single letters stand for after a backslash. -/
def kindOf? : Char → Option Member
  | 'd' => some (.kind .digit false)
  | 'D' => some (.kind .digit true)
  | 's' => some (.kind .blank false)
  | 'S' => some (.kind .blank true)
  | 'w' => some (.kind .word false)
  | 'W' => some (.kind .word true)
  | _ => none

/-- The control characters that single letters stand for after a backslash. -/
def controlOf? : Char → Option Nat
  | 'a' => some 7
  | 'f' => some 12
  | 'n' => some 10
  | 'r' => some 13
  | 't' => some 9
  | 'v' => some 11
  | '\\' => some 92
  | _ => none

/-- The places that single letters stand for after a backslash. -/
def placeOf? : Char → Option Place
  | 'A' => some .textStart
  | 'b' => some .boundary
  | 'B' => some .inside
  | 'Z' => some .textEnd
  | _ => none

/-- An escape with exactly `n` hexadecimal digits. -/
def hexEscape (letter : Char) (n : Nat) : Read Nat := do
  let digits ← takeWhile isHex n
  let text := String.ofList ('\\' :: letter :: digits)
  if digits.length != n then fail (.incompleteEscape text) text.length
  else
    let code := number 16 digits
    if code ≤ 0x10ffff then pure code else fail (.badEscape text) text.length

/-- An escape by the name of a character. -/
def namedEscape : Read Nat := do
  unless ← accept '\x7b' do fail .missingBrace 0
  let name ← nameUntil '\x7d' "character name"
  match characterNamed? name with
  | some n => pure n
  | none => fail (.unknownCharacter (String.ofList name)) (name.length + 4)

/-- An escape that stands for one character, of those that sets and sequences share. -/
def sharedEscape? (c : Char) : Read (Option Nat) := do
  match c with
  | 'x' => return some (← hexEscape c 2)
  | 'u' => return some (← hexEscape c 4)
  | 'U' => return some (← hexEscape c 8)
  | 'N' => return some (← namedEscape)
  | _ => return none

/-- A letter or digit that means nothing after a backslash is a fault; all else stands for
itself. -/
def plainEscape (c : Char) : Read Nat :=
  if c.isAlpha || c.isDigit then fail (.badEscape (String.ofList ['\\', c])) 2
  else pure c.toNat

/-- An octal escape must name a character up to U+00FF. -/
def octal (digits : List Char) : Read Nat := do
  let code := number 8 digits
  if code > 255 then
    fail (.octalRange (String.ofList ('\\' :: digits))) (digits.length + 1)
  else pure code

/-- An escape in a set. -/
def memberEscape (c : Char) : Read Member := do
  match if c == 'b' then some 8 else controlOf? c with
  | some n => return .code n
  | none =>
    match kindOf? c with
    | some m => return m
    | none =>
      match ← sharedEscape? c with
      | some n => return .code n
      | none =>
        if isOctal c then return .code (← octal (c :: (← takeWhile isOctal 2)))
        else return .code (← plainEscape c)

/-- A reference to a group that is there already. -/
def groupReference (digits : List Char) : Read Regex := do
  let index := number 10 digits
  if index < (← get).groups then
    checkGroup index (digits.length + 1)
    checkLookbehind index
    return .same index
  else fail (.invalidGroup index) digits.length

/-- An escape that starts with a digit other than zero: three octal digits are a character, all else
is a reference to a group. -/
def digitEscape (c : Char) : Read Regex := do
  match ← takeWhile Char.isDigit 1 with
  | [d] =>
    if isOctal c && isOctal d then
      match ← takeWhile isOctal 1 with
      | [e] => return .code (← octal [c, d, e])
      | _ => groupReference [c, d]
    else groupReference [c, d]
  | _ => groupReference [c]

/-- An escape in a sequence. -/
def itemEscape (c : Char) : Read Regex := do
  match placeOf? c with
  | some p => return .place p
  | none =>
    match kindOf? c with
    | some m => return .set false [m]
    | none =>
      match controlOf? c with
      | some n => return .code n
      | none =>
        match ← sharedEscape? c with
        | some n => return .code n
        | none =>
          if c == '0' then return .code (number 8 (← takeWhile isOctal 2))
          else if c.isDigit then digitEscape c
          else return .code (← plainEscape c)

/-! ## Sets -/

/-- One member of a set, from the token that starts it. -/
def member (t : List Char) : Read Member :=
  match t with
  | ['\\', c] => memberEscape c
  | c :: _ => pure (.code c.toNat)
  | [] => pure (.code 0)

/-- The range between two members, of the tokens `this` and `that`. -/
def range (this that : List Char) : Member → Member → Read Member
  | .code low, .code high =>
    if high < low then
      fail (.badRange (String.ofList this) (String.ofList that)) (this.length + 1 + that.length)
    else pure (.range low high)
  | _, _ =>
    fail (.badRange (String.ofList this) (String.ofList that)) (this.length + 1 + that.length)

/-- The members of a set whose bracket stands at `start`, up to the bracket that closes it. -/
def members (start : Nat) (got : List Member) : Nat → Read (List Member)
  | 0 => failAt .unterminatedSet start
  | n + 1 => do
    match ← Regex.take with
    | none => failAt .unterminatedSet start
    | some this =>
      if this == [']'] && !got.isEmpty then return got.reverse
      let low ← member this
      if ← accept '-' then
        match ← Regex.take with
        | none => failAt .unterminatedSet start
        | some that =>
          if that == [']'] then return (.code 45 :: low :: got).reverse
          let high ← member that
          members start ((← range this that low high) :: got) n
      else members start (low :: got) n

/-- A set; one that holds a single character is that character. -/
def setOf (negated : Bool) (members : List Member) : Regex :=
  match negated, members.eraseDups with
  | false, [.code n] => .code n
  | negated, members => .set negated members

/-- The set after an opening bracket. -/
def bracket : Read Regex := do
  let start := (← tell) - 1
  let negated ← accept '^'
  return setOf negated (← members start [] ((← get).rest.length + 1))

/-! ## Repetitions -/

/-- A count of a repetition, if digits are given. -/
def count? (digits : List Char) : Read (Option Nat) :=
  if digits.isEmpty then pure none
  else if digitLimit < digits.length then throw (.tooManyDigits digits.length)
  else
    let n := number 10 digits
    if repeatLimit ≤ n then throw .tooLarge else pure (some n)

/-- The bounds that follow an opening brace; nothing is taken if they are not well formed. -/
def bounds? : Read (Option (Nat × Option Nat)) := do
  let start ← get
  let here ← tell
  let size := start.rest.length
  let low ← takeWhile Char.isDigit size
  let high ← if ← accept ',' then takeWhile Char.isDigit size else pure low
  if ← accept '\x7d' then
    let least := (← count? low).getD 0
    let most ← count? high
    if most.any (· < least) then failAt .minAboveMax here
    return some (least, most)
  else
    modify fun _ => start
    return none

/-- The mood that follows a repetition. -/
def mood : Read Mood := do
  if ← accept '?' then return .lazy
  else if ← accept '+' then return .possessive
  else return .greedy

/-- The last item repeated; `position` is where the repetition is written. -/
def repeated (position least : Nat) (most : Option Nat) (got : List Regex) :
    Read (List Regex) := do
  match got with
  | [] => failAt .nothingToRepeat position
  | .place _ :: _ => failAt .nothingToRepeat position
  | .rep _ _ _ _ :: _ => failAt .multipleRepeat position
  | item :: got => return .rep least most (← mood) item :: got

/-! ## Switches -/

/-- The switch of a letter. -/
def flag? : Char → Option Flags
  | 'i' => some { Flags.none with ignoreCase := true }
  | 'm' => some { Flags.none with multiline := true }
  | 's' => some { Flags.none with dotAll := true }
  | 'x' => some { Flags.none with verbose := true }
  | 'a' => some { Flags.none with ascii := true }
  | 'u' => some { Flags.none with unicode := true }
  | 't' => some { Flags.none with template := true }
  | _ => none

/-- A token that starts with a letter. -/
def isLetterToken : List Char → Bool
  | [c] => isWord c && !isDecimal c && c != '_'
  | _ => false

/-- Switches to set, from the letter `c` on: the switches and the character that ends them. -/
def flagsOn (on : Flags) (c : Char) : Nat → Read (Flags × Char)
  | 0 => fail .missingFlagEnd 0
  | n + 1 => do
    if c == 'L' then fail .localeFlag 0
    let on := on.or ((flag? c).getD Flags.none)
    if on.ascii && on.unicode then fail .incompatibleFlags 0
    match ← Regex.take with
    | none => fail .missingFlagEnd 0
    | some t =>
      match t with
      | [d] =>
        if d == ')' || d == '-' || d == ':' then return (on, d)
        else if d == 'L' || (flag? d).isSome then flagsOn on d n
        else fail (if isLetterToken t then .unknownFlag else .missingFlagEnd) 1
      | _ => fail .missingFlagEnd t.length

/-- Switches to clear, from the letter `c` on. -/
def flagsOff (off : Flags) (c : Char) : Nat → Read Flags
  | 0 => fail .missingColon 0
  | n + 1 => do
    if c == 'L' || c == 'a' || c == 'u' then fail .flagOff 0
    let off := off.or ((flag? c).getD Flags.none)
    match ← Regex.take with
    | none => fail .missingColon 0
    | some t =>
      match t with
      | [d] =>
        if d == ':' then return off
        else if d == 'L' || (flag? d).isSome then flagsOff off d n
        else fail (if isLetterToken t then .unknownFlag else .missingColon) 1
      | _ => fail .missingColon t.length

/-- Switches written at the start of a group, from their first character on. Without a colon they
hold for the whole expression, and nothing is answered. -/
def groupFlags (c : Char) : Read (Option (Flags × Flags)) := do
  let size := (← get).rest.length + 1
  let (on, last) ← if c == '-' then pure (Flags.none, '-') else flagsOn Flags.none c size
  if last == ')' then
    modify fun s => { s with flags := s.flags.or on }
    return none
  if on.template then fail .globalFlagOn 1
  let off ←
    if last == '-' then
      match ← Regex.take with
      | none => fail .missingFlag 0
      | some t =>
        match t with
        | [d] =>
          if d == 'L' || (flag? d).isSome then flagsOff Flags.none d size
          else fail (if isLetterToken t then .unknownFlag else .missingFlag) 1
        | _ => fail .missingFlag t.length
    else pure Flags.none
  if off.template then fail .globalFlagOff 1
  if on.overlap off then fail .flagOnAndOff 1
  return some (on, off)

/-! ## Groups -/

/-- What the characters after an opening parenthesis announce. -/
inductive Opening
  | capture (name : Option String)
  | plain (on off : Flags)
  | atomic
  | look (behind negated : Bool)
  | given (index : Nat)
  | item (r : Regex)
  | nothing

/-- A name of a group must be an identifier. -/
def checkName (name : List Char) : Read Unit := do
  unless isIdentifier name do fail (.badName (String.ofList name)) (name.length + 1)

/-- Takes a comment up to the parenthesis that closes it. -/
def skipComment (start : Nat) : Nat → Read Unit
  | 0 => failAt .unterminatedComment start
  | n + 1 => do
    match ← Regex.take with
    | none => failAt .unterminatedComment start
    | some t => if t == [')'] then pure () else skipComment start n

/-- The group with a name. -/
def named (name : List Char) : Read Nat := do
  match (← get).names.find? (·.1 == String.ofList name) with
  | some (_, index) => pure index
  | none => fail (.unknownName (String.ofList name)) (name.length + 1)

/-- Group numbers from here on can belong to no group. -/
def groupLimit : Nat := 1073741823

/-- The number of a group that may come later. -/
def laterGroup (name : List Char) : Read Nat := do
  match integer? name with
  | some (.ofNat index) =>
    if index == 0 then fail .badGroupNumber (name.length + 1)
    if groupLimit ≤ index then fail (.invalidGroup index) (name.length + 1)
    let position := (← tell) - name.length - 1
    modify fun s =>
      if s.references.any (·.1 == index) then s
      else { s with references := s.references ++ [(index, position)] }
    pure index
  | _ => fail (.badName (String.ofList name)) (name.length + 1)

/-- The condition of a conditional group: the name or the number of another group. -/
def condition : Read Nat := do
  let name ← nameUntil ')' "group name"
  let index ← if isIdentifier name then named name else laterGroup name
  checkLookbehind index
  return index

/-- The part of a group before its contents; `first` says that nothing stands before the group. -/
def opening (start : Nat) (first : Bool) : Read Opening := do
  unless ← accept '?' do return .capture none
  match ← Regex.take with
  | none => fail .unexpectedEnd 0
  | some ['P'] =>
    if ← accept '<' then
      let name ← nameUntil '>' "group name"
      checkName name
      return .capture (some (String.ofList name))
    else if ← accept '=' then
      let name ← nameUntil ')' "group name"
      checkName name
      let index ← named name
      checkGroup index (name.length + 1)
      checkLookbehind index
      return .item (.same index)
    else
      match ← Regex.take with
      | none => fail .unexpectedEnd 0
      | some t => fail (.unknownExtension ("?P" ++ String.ofList t)) (t.length + 2)
  | some [':'] => return .plain Flags.none Flags.none
  | some ['#'] =>
    skipComment start ((← get).rest.length + 1)
    return .nothing
  | some ['='] => return .look false false
  | some ['!'] => return .look false true
  | some ['<'] =>
    match ← Regex.take with
    | none => fail .unexpectedEnd 0
    | some ['='] => return .look true false
    | some ['!'] => return .look true true
    | some t => fail (.unknownExtension ("?<" ++ String.ofList t)) (t.length + 2)
  | some ['('] => return .given (← condition)
  | some ['>'] => return .atomic
  | some t =>
    match t with
    | [c] =>
      if c == '-' || c == 'L' || (flag? c).isSome then
        match ← groupFlags c with
        | some (on, off) => return .plain on off
        | none => if first then return .nothing else failAt .lateFlags start
      else fail (.unknownExtension ("?" ++ String.ofList t)) (t.length + 1)
    | _ => fail (.unknownExtension ("?" ++ String.ofList t)) (t.length + 1)

/-- A new group with its number; a name is given once only. -/
def openGroup (name : Option String) : Read Nat := do
  let s ← get
  let index := s.groups
  modify fun s => { s with groups := index + 1 }
  match name with
  | none => pure ()
  | some n =>
    match s.names.find? (·.1 == n) with
    | some (_, first) => fail (.redefinition n index first) (n.length + 1)
    | none => modify fun s => { s with names := s.names ++ [(n, index)] }
  return index

/-- The parenthesis that closes the group opened at `start`. -/
def close (start : Nat) : Read Unit := do
  unless ← accept ')' do failAt .unterminatedGroup start

/-- Blanks that count for nothing in a verbose expression. -/
def isVerboseBlank (c : Char) : Bool :=
  c == ' ' || c == '\t' || c == '\n' || c == '\r' || c == '\x0b' || c == '\x0c'

/-- Takes a comment of a verbose expression. -/
def skipLine : Nat → Read Unit
  | 0 => pure ()
  | n + 1 => do
    match ← Regex.take with
    | none => pure ()
    | some t => if t == ['\n'] then pure () else skipLine n

/-! ## Sequences and alternatives -/

/-- The items of an expression that is a sequence, or the expression alone. -/
def itemsOf : Regex → List Regex
  | .seq items => items
  | r => [r]

/-- The items, with those of plain groups in place of the groups. -/
def unpack : List Regex → List Regex
  | [] => []
  | .group none on off body :: items =>
    if on == Flags.none && off == Flags.none then itemsOf body ++ unpack items
    else .group none on off body :: unpack items
  | item :: items => item :: unpack items

/-- Two items without parts of their own are the same. -/
def isSameItem : Regex → Regex → Bool
  | .code m, .code n => m == n
  | .any, .any => true
  | .set a xs, .set b ys => a == b && xs == ys
  | .place p, .place q => p == q
  | .same i, .same j => i == j
  | _, _ => false

/-- The items that all branches start with, and the branches without them. -/
def commonStart : (fuel : Nat) → List (List Regex) → List Regex × List (List Regex)
  | 0, branches => ([], branches)
  | n + 1, branches =>
    match branches with
    | (r :: rs) :: others =>
      if others.all fun b => b.head?.any (isSameItem r) then
        let (shared, rests) := commonStart n (rs :: others.map List.tail)
        (r :: shared, rests)
      else ([], branches)
    | _ => ([], branches)

/-- The members of a set that a branch stands for: one character, or a set that is not negated. -/
def branchMembers? : List Regex → Option (List Member)
  | [.code n] => some [.code n]
  | [.set false members] => some members
  | _ => none

/-- One branch, or the choice between several. What all branches start with is taken out of the
choice, and a choice between single characters is a set. -/
def choice (branches : List (List Regex)) : Regex :=
  match branches with
  | [items] => .seq items
  | _ =>
    let (shared, rests) := commonStart (branches.headD []).length branches
    match rests.mapM branchMembers? with
    | some members => .seq (shared ++ [.set false members.flatten.eraseDups])
    | none => .seq (shared ++ [.alt (rests.map .seq)])

/-- What the next token of a sequence comes to: the end of the sequence, nothing, an item, a
repetition of the last item, or a group. Repetitions and groups have the place where they are
written. -/
inductive Sign
  | stop
  | skip
  | item (r : Regex)
  | repetition (position least : Nat) (most : Option Nat)
  | group (position : Nat)

/-- An opening brace that stands at `position`: a repetition with bounds, or just a brace. -/
def brace (position : Nat) : Read Sign := do
  if (← peek) == some ['\x7d'] then return .item (.code 0x7b)
  else
    match ← bounds? with
    | some (least, most) => return .repetition position least most
    | none => return .item (.code 0x7b)

/-- What a character that stands at `position` comes to. -/
def signOf (position : Nat) (c : Char) : Read Sign :=
  match c with
  | '[' => return .item (← bracket)
  | '.' => return .item .any
  | '^' => return .item (.place .lineStart)
  | '$' => return .item (.place .lineEnd)
  | '?' => return .repetition position 0 (some 1)
  | '*' => return .repetition position 0 none
  | '+' => return .repetition position 1 none
  | '\x7b' => brace position
  | '(' => return .group position
  | c => return .item (.code c.toNat)

/-- What a token that stands at `position` comes to, once it is taken. A token of two characters is an
escape. -/
def signOfToken (verbose : Bool) (position : Nat) : List Char → Read Sign
  | [c] => do
    if verbose && isVerboseBlank c then return .skip
    else if verbose && c == '#' then
      skipLine ((← get).rest.length + 1)
      return .skip
    else signOf position c
  | [_, c] => return .item (← itemEscape c)
  | _ => return .skip

/-- The next token of a sequence, taken unless the sequence ends before it. -/
def sign (verbose : Bool) : Read Sign := do
  match ← peek with
  | none => return .stop
  | some this =>
    if this == ['|'] || this == [')'] then return .stop
    else
      let position ← tell
      let _ ← Regex.take
      signOfToken verbose position this

mutual

/-- Alternatives, up to the end or a closing parenthesis. -/
def alternatives (verbose top : Bool) (got : List (List Regex)) : Nat → Read Regex
  | 0 => pure (choice got.reverse)
  | n + 1 => do
    let items ← sequence verbose (top && got.isEmpty) [] n
    let got := items :: got
    if ← accept '|' then
      let s ← get
      alternatives (if top then s.flags.verbose else verbose) top got n
    else return choice got.reverse

/-- The items of a sequence; those of `got`, last first, have been read. `first` says that switches
for the whole expression may still be written. -/
def sequence (verbose first : Bool) (got : List Regex) : Nat → Read (List Regex)
  | 0 => pure (unpack got.reverse)
  | n + 1 => do
    match ← sign verbose with
    | .stop => return unpack got.reverse
    | .skip => sequence verbose first got n
    | .item r => sequence verbose first (r :: got) n
    | .repetition position least most =>
      sequence verbose first (← repeated position least most got) n
    | .group position =>
      match ← opening position (first && got.isEmpty) with
      | .nothing =>
        let s ← get
        sequence (verbose || (first && s.flags.verbose)) first got n
      | .item r => sequence verbose first (r :: got) n
      | .capture name =>
        let index ← openGroup name
        let body ← alternatives verbose false [] n
        close position
        modify fun s => { s with widths := s.widths ++ [(index, width s.widths body)] }
        sequence verbose first (.group (some index) Flags.none Flags.none body :: got) n
      | .plain on off =>
        let inner := (verbose || on.verbose) && !off.verbose
        let body ← alternatives inner false [] n
        close position
        sequence verbose first (.group none on off body :: got) n
      | .atomic =>
        let body ← alternatives verbose false [] n
        close position
        sequence verbose first (.atomic body :: got) n
      | .look behind negated =>
        let outer := (← get).lookbehind
        if behind && outer.isNone then
          modify fun s => { s with lookbehind := some s.groups }
        let body ← alternatives verbose false [] n
        modify fun s => { s with lookbehind := outer }
        close position
        let w := width (← get).widths body
        sequence verbose first (.look (if behind then some w else none) negated body :: got) n
      | .given index =>
        let yes ← sequence verbose false [] n
        let no ←
          if ← accept '|' then
            let no ← sequence verbose false [] n
            if (← peek) == some ['|'] then fail .manyBranches 0
            pure no
          else pure []
        close position
        sequence verbose first (.given index (.seq yes) (.seq no) :: got) n

end

/-- The whole expression. -/
def whole : Read Regex := do
  checkNext
  let r ← alternatives false true [] (4 * (← get).size + 4)
  let s ← get
  if s.flags.ascii && s.flags.unicode then throw .twoModes
  if (← peek).isSome then fail .unbalanced 0
  match s.references.find? fun ref => s.groups ≤ ref.1 with
  | some (index, position) => failAt (.invalidGroup index) position
  | none => pure ()
  match misfit? s.flags.template r with
  | some fault => throw (.malformed fault none s.pattern)
  | none => return r

/-- The expression that a text writes, and the switches that hold for all of it. -/
def parse (pattern : String) : Except Error (Regex × Flags) :=
  let cs := pattern.toList
  let start : Reader := ⟨pattern, cs.length, tokensFrom 0 cs, 1, [], [], Flags.none, none, []⟩
  match whole.run start with
  | .ok (r, s) => .ok (r, s.flags)
  | .error e => .error e

end Codebook.Regex
