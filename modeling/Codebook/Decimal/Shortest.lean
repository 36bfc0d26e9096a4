/-!
# Shortest decimals

A binary fraction `m · 2 ^ q` stands for all reals that round to it. Among the decimals in that
interval, `shortest` takes one with the fewest digits, and of those the nearest. All arithmetic is
exact.
-/

namespace Codebook.Decimal

/-! ## The fewest digits that read back -/

/-- A positive double: `mantissa · 2 ^ exponent`. The neighbour below is closer than the one above
where `narrow` holds. -/
structure Binary where
  mantissa : Nat
  exponent : Int
  narrow : Bool
  deriving DecidableEq, Repr

/-- The finite double with the given bits, without its sign. -/
def Binary.ofBits (bits : UInt64) : Binary :=
  let n := bits.toNat % Nat.pow 2 63
  let fraction := n % Nat.pow 2 52
  let e : Nat := n / Nat.pow 2 52
  if e == 0 then ⟨fraction, -1074, false⟩
  else ⟨fraction + Nat.pow 2 52, (e : Int) - 1075, fraction == 0 && e != 1⟩

/-- A positive rational number. -/
structure Ratio where
  num : Nat
  den : Nat
  deriving DecidableEq, Repr

/-- `n · 2 ^ e`. -/
def Ratio.scaled (n : Nat) (e : Int) : Ratio :=
  if 0 ≤ e then ⟨n * Nat.pow 2 e.toNat, 1⟩ else ⟨n, Nat.pow 2 (-e).toNat⟩

/-- The number of places before the point: the least `e` with a value below `10 ^ e`. -/
def Ratio.places (r : Ratio) : Int :=
  if r.den ≤ r.num then (Nat.toDigits 10 (r.num / r.den)).length
  else
    let k := (Nat.toDigits 10 (r.den / r.num)).length
    if r.den ≤ r.num * Nat.pow 10 (k - 1) then 2 - (k : Int) else 1 - (k : Int)

/-- The ratio divided by `10 ^ s`. -/
def Ratio.shifted (r : Ratio) (s : Int) : Ratio :=
  if 0 ≤ s then ⟨r.num, r.den * Nat.pow 10 s.toNat⟩
  else ⟨r.num * Nat.pow 10 (-s).toNat, r.den⟩

/-- The whole number `c` lies between two ratios of one denominator; the bounds count if `closed`.
-/
def inside (closed : Bool) (low high den c : Nat) : Bool :=
  let x := c * den
  (low < x && x < high) || (closed && (low == x || x == high))

/-- The whole number among `c` and `c + 1` that lies in the interval around a ratio and is nearest
to it, an even one if both are as near. -/
def nearest? (closed : Bool) (low value high den : Nat) : Option Nat :=
  let c := value / den
  let rest := value % den
  let down := inside closed low high den c
  let up := inside closed low high den (c + 1)
  if down && up then
    if 2 * rest < den || (2 * rest == den && c % 2 == 0) then some c else some (c + 1)
  else if down then some c
  else if up then some (c + 1)
  else none

/-- The digits and the exponent of the first decimal found with `digits`, `digits + 1`, … digits. -/
def search (b : Binary) (digits : Nat) : (fuel : Nat) → Nat × Int
  | 0 => (0, 0)
  | n + 1 =>
    let at4 := fun k : Nat => Ratio.scaled k (b.exponent - 2)
    let value := at4 (4 * b.mantissa)
    let s := value.places - digits
    let low := (at4 (4 * b.mantissa - if b.narrow then 1 else 2)).shifted s
    let high := (at4 (4 * b.mantissa + 2)).shifted s
    let mid := value.shifted s
    match nearest? (b.mantissa % 2 == 0) low.num mid.num high.num mid.den with
    | some c => (c, s)
    | none => search b (digits + 1) n

/-- The shortest decimal `c · 10 ^ s` of a positive binary fraction. -/
def shortest (b : Binary) : Nat × Int :=
  search b 1 17

/-! ## Writing it -/

/-- Digits without zeros at the end, and the exponent that makes up for them. -/
def dropZeros (digits : List Char) (s : Int) : List Char × Int :=
  let kept := (digits.reverse.dropWhile (· == '0')).reverse
  (kept, s + (digits.length - kept.length : Nat))

/-- Places that are written without an exponent: the point stands at most four places before and
sixteen places after the first digit. -/
def isPositional (point : Int) : Bool :=
  -4 < point && point ≤ 16

/-- Zeros. -/
def zeros (n : Int) : List Char :=
  List.replicate n.toNat '0'

/-- Digits with the point after `point` of them; `whole` is what follows a whole number. -/
def positional (digits : List Char) (point : Int) (whole : List Char) : List Char :=
  if point ≤ 0 then '0' :: '.' :: zeros (-point) ++ digits
  else if digits.length ≤ point.toNat then
    digits ++ zeros (point - digits.length) ++ whole
  else digits.take point.toNat ++ '.' :: digits.drop point.toNat

/-- An exponent of at least two digits. -/
def exponentText (e : Int) : List Char :=
  let digits := (toString e.natAbs).toList
  'e' :: (if e < 0 then '-' else '+') :: (zeros (2 - digits.length) ++ digits)

/-- Digits with an exponent. -/
def withExponent (digits : List Char) (point : Int) : List Char :=
  digits.take 1 ++ (if digits.length ≤ 1 then [] else '.' :: digits.drop 1) ++
    exponentText (point - 1)

/-- The text of a double, with `whole` after a whole number. -/
def doubleText (x : Float) (whole : List Char) : String :=
  if x.isNaN then "nan"
  else
    let sign := if x.toBits.toNat < Nat.pow 2 63 then "" else "-"
    if x.isInf then sign ++ "inf"
    else if x == 0 then sign ++ "0" ++ String.ofList whole
    else
      let (c, s) := shortest (Binary.ofBits x.toBits)
      let (digits, s) := dropZeros (toString c).toList s
      let point := digits.length + s
      sign ++ String.ofList
        (if isPositional point then positional digits point whole else withExponent digits point)

/-- The text of a double: the shortest decimal that reads back, with a point in it. -/
def text (x : Float) : String :=
  doubleText x ['.', '0']

/-- The text of a double without a point after a whole number. -/
def bareText (x : Float) : String :=
  doubleText x []

/-- The double nearest to `digits · 10 ^ exponent`. What is far beyond the largest double or far below
the smallest one needs no division. -/
def ofScientific (digits : Nat) (exponent : Int) : Float :=
  let size : Int := ((digits.log2 * 3 / 10 : Nat) : Int) + exponent
  if digits == 0 then 0
  else if 400 < size then 1 / 0
  else if size < -1200 then 0
  else Float.ofScientific digits (exponent < 0) exponent.natAbs

end Codebook.Decimal
