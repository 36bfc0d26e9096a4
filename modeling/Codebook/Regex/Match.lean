import Codebook.Regex.Parser
import Codebook.Text.Folding

/-!
# Matching regular expressions

An expression is tried at one place of a text, with a continuation for what has to follow. Choices
are tried in order, a greedy repetition from the most to the least and a lazy one the other way, and
the first way through to the end counts. `Regex.matchesStart` asks whether an expression matches at
the start of a text.
-/

namespace Codebook.Regex

open Text

/-- A place in a text: what is before it, last character first, what is after it, and where the
groups started and ended last. A group that is open has a start of now and an end of before. -/
structure Spot where
  before : List Char
  rest : List Char
  starts : List (Nat × Nat)
  ends : List (Nat × Nat)

/-- The spot one character on. -/
def Spot.step (s : Spot) (c : Char) (cs : List Char) : Spot :=
  { s with before := c :: s.before, rest := cs }

/-- The spot `n` characters back, if there are so many. -/
def Spot.back? (s : Spot) : Nat → Option Spot
  | 0 => some s
  | n + 1 =>
    match s.before with
    | c :: cs => ({ s with before := cs, rest := c :: s.rest } : Spot).back? n
    | [] => none

/-- The spot with the start of a group marked. -/
def Spot.opened (s : Spot) (group : Nat) : Spot :=
  { s with starts := (group, s.before.length) :: s.starts }

/-- The spot with the end of a group marked. -/
def Spot.closed (s : Spot) (group : Nat) : Spot :=
  { s with ends := (group, s.before.length) :: s.ends }

/-- The text that a group took, if it has both a start and an end after it. -/
def Spot.group? (s : Spot) (group : Nat) : Option (List Char) := do
  let (_, start) ← s.starts.find? (·.1 == group)
  let (_, stop) ← s.ends.find? (·.1 == group)
  if start ≤ stop then
    return ((s.before.reverse ++ s.rest).drop start).take (stop - start)
  else none

/-- The character is of the kind; without the wide tables only ASCII characters are. -/
def Kind.holds (ascii : Bool) (c : Char) : Kind → Bool
  | .digit => if ascii then c.isDigit else isDecimal c
  | .blank => isBlank c && (!ascii || (c.toNat < 128 && !(28 ≤ c.toNat && c.toNat ≤ 31)))
  | .word => isWord c && (!ascii || c.toNat < 128)

/-- The member holds a character. -/
def Member.holds (ascii : Bool) (c : Char) : Member → Bool
  | .code n => n == c.toNat
  | .range low high => low ≤ c.toNat && c.toNat ≤ high
  | .kind k negated => k.holds ascii c != negated

/-- The form of a character by which it is compared when case does not count. -/
def Flags.fold (flags : Flags) (n : Nat) : Nat :=
  if flags.ascii then lowerAscii n else lowerCode n

/-- A lower-case form with the others that count as the same. -/
def Flags.alike (flags : Flags) (n : Nat) : List Nat :=
  if flags.ascii then [n] else related n

/-- The character has another form when case does not count. -/
def Flags.changes (flags : Flags) (n : Nat) : Bool :=
  if flags.ascii then n < 128 && changesCase n else changesCase n

/-- The code names the character. -/
def sameCode (flags : Flags) (n : Nat) (c : Char) : Bool :=
  if flags.ignoreCase && flags.changes n then
    (flags.alike (flags.fold n)).contains (flags.fold c.toNat)
  else n == c.toNat

/-- Characters up to here are compared by their forms in sets when case does not count. -/
def planeEnd : Nat := 0xffff

/-- Whether case changes what a member holds. Members beyond the first plane always count as such.
-/
def Member.changes (flags : Flags) : Member → Bool
  | .code n => planeEnd < n || flags.changes n
  | .range low high =>
    planeEnd < high ||
      if flags.ascii then changesCaseIn low (min high 127) else changesCaseIn low high
  | .kind _ _ => false

/-- The member holds a character, given by its lower-case form, when case does not count. -/
def Member.holdsForm (flags : Flags) (n : Nat) : Member → Bool
  | .code m => if planeEnd < m then m == n else (flags.alike (flags.fold m)).contains n
  | .range low high =>
    let among := fun c => low ≤ c && c ≤ high
    let forms := fun c =>
      if flags.ascii then (if 97 ≤ c && c ≤ 122 then [c, c - 32] else [c])
      else if lowerCode c == c then c :: upperForms c else upperForms c
    (planeEnd < high && (among n || (upperForms n).any among)) ||
      (flags.alike n).any fun c => (forms c).any fun c => among c && c ≤ planeEnd
  | .kind k negated => k.holds flags.ascii (Char.ofNat n) != negated

/-- The set of the members holds a character. -/
def holdsAny (flags : Flags) (members : List Member) (c : Char) : Bool :=
  match members with
  | [.code n] => sameCode flags n c
  | _ =>
    if flags.ignoreCase && members.any (Member.changes flags) then
      members.any (Member.holdsForm flags (flags.fold c.toNat))
    else members.any (Member.holds flags.ascii c)

/-- A character of a word for the boundaries of words. -/
def wordAt (flags : Flags) : List Char → Bool
  | c :: _ => Kind.holds flags.ascii c .word
  | [] => false

/-- The place holds at a spot. -/
def Place.holds (flags : Flags) (s : Spot) : Place → Bool
  | .lineStart => s.before.isEmpty || (flags.multiline && s.before.head? == some '\n')
  | .lineEnd => s.rest.isEmpty || s.rest == ['\n'] ||
      (flags.multiline && s.rest.head? == some '\n')
  | .textStart => s.before.isEmpty
  | .textEnd => s.rest.isEmpty
  | .boundary => wordAt flags s.before != wordAt flags s.rest
  | .inside =>
    wordAt flags s.before == wordAt flags s.rest && !(s.before.isEmpty && s.rest.isEmpty)

/-- Two characters are the same, or differ in case only where case does not count. -/
def sameChar (flags : Flags) (a b : Char) : Bool :=
  if flags.ignoreCase then flags.fold a.toNat == flags.fold b.toNat else a == b

/-- What follows a text at the start of another. -/
def follows? (flags : Flags) : (p : List Char) → Spot → Option Spot
  | [], s => some s
  | a :: p, s =>
    match s.rest with
    | c :: cs => if sameChar flags a c then follows? flags p (s.step c cs) else none
    | [] => none

/-- A way to go on from a spot, or the lack of one. -/
abbrev Next := Spot → Option Spot

/-- A repetition from a spot: `least` rounds are due, then at most `most` more. A round that takes
nothing is the last one. -/
def rounds (body : Spot → Next → Option Spot) (lazy : Bool) (next : Next) :
    (fuel : Nat) → (least : Nat) → (most : Option Nat) → Spot → Option Spot
  | 0, _, _, _ => none
  | fuel + 1, least + 1, most, s => body s (rounds body lazy next fuel least most)
  | fuel + 1, 0, most, s =>
    if most == some 0 then next s
    else
      let again := fun _ : Unit => body s fun t =>
        if t.rest.length == s.rest.length then next t
        else rounds body lazy next fuel 0 (most.map (· - 1)) t
      if lazy then (next s).orElse again else (again ()).orElse fun _ => next s

/-- A repetition that gives nothing back: every round is taken the first way that there is. -/
def firmRounds (body : Spot → Option Spot) :
    (fuel : Nat) → (least : Nat) → (most : Option Nat) → Spot → Option Spot
  | 0, _, _, _ => none
  | fuel + 1, least + 1, most, s => (body s).bind (firmRounds body fuel least most)
  | fuel + 1, 0, most, s =>
    if most == some 0 then some s
    else
      match body s with
      | none => some s
      | some t =>
        if t.rest.length == s.rest.length then some t
        else firmRounds body fuel 0 (most.map (· - 1)) t

/-- The rounds that a repetition can need at a spot. -/
def roundLimit (s : Spot) (least : Nat) : Nat :=
  s.rest.length + least + 2

mutual

/-- The first way from a spot through an expression and on. -/
def through (flags : Flags) : Regex → Spot → Next → Option Spot
  | .code n, s, next =>
    match s.rest with
    | c :: cs => if sameCode flags n c then next (s.step c cs) else none
    | [] => none
  | .any, s, next =>
    match s.rest with
    | c :: cs => if c != '\n' || flags.dotAll then next (s.step c cs) else none
    | [] => none
  | .set negated members, s, next =>
    match s.rest with
    | c :: cs =>
      if holdsAny flags members c != negated then next (s.step c cs) else none
    | [] => none
  | .place p, s, next => if p.holds flags s then next s else none
  | .seq items, s, next => throughAll flags items s next
  | .alt branches, s, next => throughAny flags branches s next
  | .group none on off body, s, next => through (flags.within on off) body s next
  | .group (some i) _ _ body, s, next =>
    through flags body (s.opened i) fun t => next (t.closed i)
  | .rep least most .possessive body, s, next =>
    let most := most.map (· - least)
    (firmRounds (fun s => through flags body s some) (roundLimit s least) least most s).bind next
  | .rep least most mood body, s, next =>
    let most := most.map (· - least)
    rounds (through flags body) (mood == .lazy) next (roundLimit s least) least most s
  | .same i, s, next =>
    match s.group? i with
    | some text => (follows? flags text s).bind next
    | none => none
  | .look behind negated body, s, next =>
    let start := match behind with
      | some w => s.back? w.least
      | none => some s
    match start.bind fun t => through flags body t some with
    | some t => if negated then none else next { s with starts := t.starts, ends := t.ends }
    | none => if negated then next s else none
  | .atomic body, s, next => (through flags body s some).bind next
  | .given i yes no, s, next =>
    if (s.group? i).isSome then through flags yes s next else through flags no s next

/-- The first way through expressions one after another. -/
def throughAll (flags : Flags) : List Regex → Spot → Next → Option Spot
  | [], s, next => next s
  | r :: rs, s, next => through flags r s fun t => throughAll flags rs t next

/-- The first way through one of several expressions. -/
def throughAny (flags : Flags) : List Regex → Spot → Next → Option Spot
  | [], _, _ => none
  | r :: rs, s, next => (through flags r s next).orElse fun _ => throughAny flags rs s next

end

/-- The expression matches at the start of the text. -/
def matchesStart (r : Regex × Flags) (text : String) : Bool :=
  (through r.2 r.1 ⟨[], text.toList, [], []⟩ some).isSome

/-- The expression that `pattern` writes matches at the start of `text`. -/
def test (pattern text : String) : Except Error Bool :=
  (parse pattern).map (matchesStart · text)

end Codebook.Regex
