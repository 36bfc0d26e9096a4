/-!
# Glob patterns

A glob is matched against a whole text. `*` stands for any run of characters, `?` for any one
character, `[…]` for one character of a set and `[!…]` for one character outside it; a slash is a
character like any other. A `[` that no `]` closes stands for itself.
-/

namespace Codebook

/-- A member of a set: a character or a range with its bounds. -/
inductive Glob.Member
  | single (c : Char)
  | range (low high : Char)
  deriving DecidableEq, Repr

/-- One item of a glob. -/
inductive Glob.Item
  | star
  | one
  | char (c : Char)
  | set (negated : Bool) (members : List Glob.Member)
  deriving DecidableEq, Repr

/-- A glob is a sequence of items. -/
abbrev Glob := List Glob.Item

namespace Glob

/-! ## Reading -/

/-- The members written between the brackets of a set. A range with its bounds the wrong way round
is left out; a hyphen that joins nothing is a member. -/
def members : List Char → List Member
  | a :: '-' :: b :: cs => if a ≤ b then .range a b :: members cs else members cs
  | a :: cs => .single a :: members cs
  | [] => []

/-- The set with the given members. A `!` that a left out range has brought to the front negates like
one that was there from the start, and the hyphen of a range that it began is then a member. -/
def setOf : List Member → Item
  | .single '!' :: ms => .set true ms
  | .range '!' b :: ms => .set true (.single '-' :: .single b :: ms)
  | ms => .set false ms

/-- What stands before the bracket that closes a set, the first member apart, which may be such a
bracket itself. -/
def setBody? (cs : List Char) : Option (List Char) :=
  let first := if cs.head? == some ']' then [']'] else []
  let rest := cs.drop first.length
  if rest.contains ']' then some (first ++ rest.takeWhile (· != ']')) else none

/-- The set that follows an opening bracket, and the number of characters it takes. -/
def set? (cs : List Char) : Option (Item × Nat) :=
  match cs with
  | '!' :: cs => (setBody? cs).map fun body => (.set true (members body), body.length + 2)
  | cs => (setBody? cs).map fun body => (setOf (members body), body.length + 1)

/-- The items of a glob text after the first `skip` characters, which belong to a set already
read. -/
def parseFrom (skip : Nat) : List Char → Glob
  | [] => []
  | c :: cs =>
    match skip with
    | skip + 1 => parseFrom skip cs
    | 0 =>
      match c with
      | '*' => .star :: parseFrom 0 cs
      | '?' => .one :: parseFrom 0 cs
      | '[' =>
        match set? cs with
        | some (item, len) => item :: parseFrom len cs
        | none => .char '[' :: parseFrom 0 cs
      | c => .char c :: parseFrom 0 cs

/-- The glob that a text writes. -/
def ofString (s : String) : Glob :=
  parseFrom 0 s.toList

/-! ## Matching -/

/-- The character is the member or lies in it. -/
def Member.has : Member → Char → Bool
  | .single a, c => a == c
  | .range low high, c => low ≤ c && c ≤ high

/-- An item other than the star admits a character. -/
def Item.admits : Item → Char → Bool
  | .star, _ => true
  | .one, _ => true
  | .char a, c => a == c
  | .set negated ms, c => ms.any (·.has c) != negated

/-- For every end of a text, the whole text first and the empty one last, whether it or an end of it
has a mark. -/
def orLater : List Bool → List Bool
  | [] => []
  | b :: bs =>
    let later := orLater bs
    (b || later.headD false) :: later

/-- For every end of a text, whether an item admits its first character and the rest has a mark. -/
def afterItem (item : Item) : List Char → List Bool → List Bool
  | c :: cs, _ :: b :: bs => (b && item.admits c) :: afterItem item cs (b :: bs)
  | _, _ => [false]

/-- For every end of a text, the whole text first and the empty one last, whether the glob matches
it. -/
def ends : Glob → List Char → List Bool
  | [], cs => cs.map (fun _ => false) ++ [true]
  | .star :: g, cs => orLater (ends g cs)
  | item :: g, cs => afterItem item cs (ends g cs)

/-- The glob matches the whole text. -/
def accepts (g : Glob) (cs : List Char) : Bool :=
  (ends g cs).headD false

end Glob

end Codebook
