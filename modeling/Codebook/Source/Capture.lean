import Codebook.Decimal.Double
import Codebook.Source.Basic

/-!
# What patterns capture

A pattern captures a name at most once, its alternatives capture the same names, and one that always
matches stands last. `Pattern.captures?` gives the names that a pattern captures if it keeps these
rules.
-/

namespace Codebook.Source

/-- Names that nothing can be bound to. -/
def isReserved (name : String) : Bool :=
  name == "__debug__"

/-- No name twice. -/
def allDistinct : List String → Bool
  | [] => true
  | n :: ns => !ns.contains n && allDistinct ns

/-! ## Keys -/

/-- A constant as the key of a mapping. Numbers are compared by what they stand for, and truth values
are numbers. -/
inductive LiteralKey
  | nothing
  | number (real imaginary : Dyadic)
  | text (s : String)
  | bytes (b : List UInt8)
  deriving DecidableEq

/-- The double that a number is, if it is one. -/
def Number.double : Number → Float
  | .int n => Float.ofNat n
  | .decimal d e => Decimal.ofScientific d e
  | .imaginary d e => Decimal.ofScientific d e

/-- A number as a key. -/
def Number.key : Number → LiteralKey
  | .int n => .number (Dyadic.ofInt n) 0
  | .decimal d e => .number (Decimal.exact (Decimal.ofScientific d e)) 0
  | .imaginary d e => .number 0 (Decimal.exact (Decimal.ofScientific d e))

/-- The opposite number. -/
def LiteralKey.negate : LiteralKey → LiteralKey
  | .number a b => .number (-a) (-b)
  | k => k

/-- The literal that an expression is, if it is one. -/
def literalKey? : Expr → Option LiteralKey
  | .constant .none => some .nothing
  | .constant .true => some (.number 1 0)
  | .constant .false => some (.number 0 0)
  | .constant (.number n) => some n.key
  | .constant (.text s _) => some (.text s)
  | .constant (.bytes b) => some (.bytes b)
  | .unary .minus (.constant (.number n)) => some n.key.negate
  | .binary .add a (.constant (.number n)) => real a (Decimal.exact n.double)
  | .binary .sub a (.constant (.number n)) => real a (-(Decimal.exact n.double))
  | _ => none
where
  /-- A number with the given imaginary part. -/
  real (e : Expr) (imaginary : Dyadic) : Option LiteralKey :=
    match e with
    | .constant (.number n) => some (.number (Decimal.exact n.double) imaginary)
    | .unary .minus (.constant (.number n)) =>
      some (.number (-(Decimal.exact n.double)) imaginary)
    | _ => none

/-- The expression can be the value of a pattern. -/
def isPatternValue (e : Expr) : Bool :=
  match e with
  | .attribute _ _ => true
  | e => (literalKey? e).isSome

/-- No literal twice. -/
def keysDistinct : List LiteralKey → Bool
  | [] => true
  | k :: ks => !ks.contains k && keysDistinct ks

/-! ## Names -/

/-- The names captured so far with one more, which must be new. -/
def capture (got : List String) (name : String) : Option (List String) :=
  if isReserved name || got.contains name then none else some (got ++ [name])

/-- At most one item has a star. -/
def oneStar (isStar : α → Bool) (items : List α) : Bool :=
  (items.filter isStar).length ≤ 1

/-- Few enough items stand before the one with a star, if there is one. -/
def startFits (isStar : α → Bool) (items : List α) : Bool :=
  (items.takeWhile (!isStar ·)).length < 256 || !items.any isStar

/-- The pattern has a star. -/
def Pattern.isStar : Pattern → Bool
  | .star _ => true
  | _ => false

/-- The pattern has a star and captures what it stands for. -/
def Pattern.isNamedStar : Pattern → Bool
  | .star (some _) => true
  | _ => false

mutual

/-- The names captured after a pattern, of which those in `got` were captured before it. A pattern
that always matches is allowed only if `free`. -/
def Pattern.captures? (free : Bool) (got : List String) : Pattern → Option (List String)
  | .wildcard => if free then some got else none
  | .capture name => if free then Source.capture got name else none
  | .value e => if isPatternValue e then some got else none
  | .sequence ps =>
    if oneStar Pattern.isStar ps && startFits Pattern.isNamedStar ps then capturesAll? got ps else none
  | .star none => some got
  | .star (some name) => Source.capture got name
  | .mapping keys rest => do
    if keys.all (fun k => isPatternValue k.1) && keysDistinct (keys.filterMap (literalKey? ·.1)) then
      let got ← capturesKeys? got keys
      match rest with
      | some name => Source.capture got name
      | none => return got
    else none
  | .shape _ ps ks => do
    if (ks.map (·.1)).all (!isReserved ·) && allDistinct (ks.map (·.1)) then
      capturesKeywords? (← capturesAll? got ps) ks
    else none
  | .either ps => do
    match ← capturesEither? free ps with
    | [] => return got
    | first :: others =>
      if others.all fun o => o.length == first.length && first.all o.contains then
        first.foldlM Source.capture got
      else none
  | .named p name => do Source.capture (← p.captures? free got) name

/-- The names captured after patterns inside another one. -/
def capturesAll? (got : List String) : List Pattern → Option (List String)
  | [] => some got
  | p :: ps => do capturesAll? (← p.captures? true got) ps

/-- The names captured after the values of a mapping. -/
def capturesKeys? (got : List String) : List (Expr × Pattern) → Option (List String)
  | [] => some got
  | (_, p) :: ps => do capturesKeys? (← p.captures? true got) ps

/-- The names captured after patterns of attributes. -/
def capturesKeywords? (got : List String) : List (String × Pattern) → Option (List String)
  | [] => some got
  | (_, p) :: ps => do capturesKeywords? (← p.captures? true got) ps

/-- The names that each alternative captures by itself; only the last one may always match. -/
def capturesEither? (free : Bool) : List Pattern → Option (List (List String))
  | [] => some []
  | [p] => do return [← p.captures? free []]
  | p :: ps => do return (← p.captures? false []) :: (← capturesEither? free ps)

end

end Codebook.Source
