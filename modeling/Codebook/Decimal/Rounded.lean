import Codebook.Decimal.Double

/-!
# Decimals of a chosen length

A double rounded to a number of digits or to a number of places, and the ways to write the outcome:
with a fixed number of places, with an exponent, or with an exponent only where the point is far off.
-/

namespace Codebook.Decimal

/-! ## Rounding -/

/-- The exact value of a finite double without its sign. -/
def Ratio.ofDouble (x : Float) : Ratio :=
  let b := Binary.ofBits x.toBits
  Ratio.scaled b.mantissa b.exponent

/-- Decimal digits; the point stands after the first `point` of them. -/
structure Digits where
  digits : List Char
  point : Int
  deriving DecidableEq, Repr

/-- The nearest decimal with `count` digits, without the zeros at its end. Of two as near it is the
even one. -/
def Digits.ofCount (x : Float) (count : Nat) : Digits :=
  if x == 0 then ⟨['0'], 1⟩
  else
    let r := Ratio.ofDouble x
    let q := r.shifted (r.places - count)
    let ds := (toString (roundQuotient q.num q.den)).toList
    ⟨(dropZeros ds 0).1, r.places + (ds.length - count)⟩

/-- The nearest decimal with `places` digits after the point. Of two as near it is the even one. -/
def Digits.ofPlaces (x : Float) (places : Nat) : Digits :=
  let q := (Ratio.ofDouble x).shifted (-places)
  let c := roundQuotient q.num q.den
  if c == 0 then ⟨[], -places⟩
  else
    let ds := (toString c).toList
    ⟨ds, ds.length - places⟩

/-! ## Writing -/

/-- The digit at a place; there are zeros before and after those that are known. -/
def Digits.at (d : Digits) (i : Int) : Char :=
  if 0 ≤ i then d.digits.getD i.toNat '0' else '0'

/-- The digits from one place to another. -/
def Digits.between (d : Digits) (start stop : Int) : List Char :=
  (List.range (stop - start).toNat).map fun k : Nat => d.at (start + k)

/-- The digits up to the place `stop`, with an exponent or without one. A point that nothing follows
is left out unless `keepsPoint`. -/
def Digits.write (d : Digits) (stop : Int) (hasExponent keepsPoint : Bool) : List Char :=
  let point := if hasExponent then 1 else d.point
  let start := if point ≤ 0 then point - 1 else 0
  let fraction := d.between point (max stop point)
  d.between start point ++ (if fraction.isEmpty && !keepsPoint then [] else '.' :: fraction) ++
    if hasExponent then exponentText (d.point - 1) else []

/-- How a double is written: with so many places, with so many places and an exponent, or with so
many digits and an exponent where the point is far off; `whole` then says that there is a digit after
the point, or else zeros at the end are left out. -/
inductive Style
  | fixed (places : Nat)
  | scientific (places : Nat)
  | general (count : Nat) (whole : Bool)
  deriving DecidableEq, Repr

/-- A finite double without its sign. A point stays at the end, and zeros stay, if `keepsPoint`. -/
def Style.write (style : Style) (keepsPoint : Bool) (x : Float) : List Char :=
  match style with
  | .fixed places =>
    let d := Digits.ofPlaces x places
    d.write (d.point + places) false keepsPoint
  | .scientific places => (Digits.ofCount x (places + 1)).write (places + 1) true keepsPoint
  | .general count whole =>
    let count := max count 1
    let d := Digits.ofCount x count
    let most : Int := if whole then count - 1 else count
    let far := d.point ≤ -4 || most < d.point
    let stop : Int := if keepsPoint then count else d.digits.length
    d.write (if whole && !far then max stop (d.point + 1) else stop) far keepsPoint

end Codebook.Decimal
