import Codebook.Decimal.Shortest

/-!
# Doubles and exact numbers

The exact value of a double, the double nearest to an exact quotient, and division with remainder
where the quotient is rounded down.
-/

namespace Codebook.Decimal

/-- The sign bit is set. -/
def isNegative (x : Float) : Bool :=
  Nat.pow 2 63 ≤ x.toBits.toNat

/-- The exact value of a finite double. -/
def exact (x : Float) : Dyadic :=
  let b := Binary.ofBits x.toBits
  let m : Int := b.mantissa
  Dyadic.ofIntWithPrec (if isNegative x then -m else m) (-b.exponent)

/-- A whole number is the exact value of a double. -/
def equalsInt (x : Float) (n : Int) : Bool :=
  !x.isNaN && !x.isInf && exact x == Dyadic.ofInt n

/-- The whole number nearest to `n / d`; of two as near, the even one. -/
def roundQuotient (n d : Nat) : Nat :=
  let q := n / d
  let r := n % d
  if d < 2 * r || (2 * r == d && q % 2 == 1) then q + 1 else q

/-- The greatest `e` with `2 ^ e` at most `a / b`. -/
def magnitude (a b : Nat) : Int :=
  let e : Int := (a.log2 : Int) - b.log2
  let fits := if 0 ≤ e then b * Nat.pow 2 e.toNat ≤ a else b ≤ a * Nat.pow 2 (-e).toNat
  if fits then e else e - 1

/-- The double nearest to `a / b`, infinite if that is too large. -/
def ofQuotient (a b : Nat) : Float :=
  if a == 0 then 0
  else
    let unit := max (magnitude a b - 52) (-1074)
    let q :=
      if 0 ≤ unit then roundQuotient a (b * Nat.pow 2 unit.toNat)
      else roundQuotient (a * Nat.pow 2 (-unit).toNat) b
    (Float.ofNat q).scaleB unit

/-- The double `m · 2 ^ e`, which must have room for `m`. -/
def scaled (m : Int) (e : Int) : Float :=
  (Float.ofInt m).scaleB e

/-- What is left of `x` when `y` is taken away as often as its size allows; it has the sign of `x`. -/
def truncatedRemainder (x y : Float) : Float :=
  if x.isNaN || y.isNaN || x.isInf || y == 0 then 0 / 0
  else if y.isInf || x == 0 then x
  else
    let a := Binary.ofBits x.toBits
    let b := Binary.ofBits y.toBits
    let e := min a.exponent b.exponent
    let m := a.mantissa * Nat.pow 2 (a.exponent - e).toNat
    let n := b.mantissa * Nat.pow 2 (b.exponent - e).toNat
    let r := scaled (m % n : Nat) e
    if isNegative x then -r else r

/-- A zero with the sign of a double. -/
def zeroLike (x : Float) : Float :=
  if isNegative x then -0.0 else 0.0

/-- The remainder of a division whose quotient is rounded down; it has the sign of `y`. -/
def floorRemainder (x y : Float) : Float :=
  let r := truncatedRemainder x y
  if r == 0 then zeroLike y else if (y < 0) != (r < 0) then r + y else r

/-- The quotient rounded down to a whole number. -/
def floorQuotient (x y : Float) : Float :=
  let r := truncatedRemainder x y
  let q := (x - r) / y
  let q := if r != 0 && (y < 0) != (r < 0) then q - 1 else q
  if q == 0 then zeroLike (x / y)
  else
    let whole := q.floor
    if 0.5 < q - whole then whole + 1 else whole

end Codebook.Decimal
