import Codebook.Decimal.Double

/-!
# Complex numbers of doubles

Arithmetic of complex numbers part by part, and their text.
-/

namespace Codebook.Decimal

/-- A complex number whose parts are doubles. -/
structure ComplexDouble where
  re : Float
  im : Float
  deriving Repr, Inhabited

namespace ComplexDouble

/-- A real number. -/
def ofReal (x : Float) : ComplexDouble := ⟨x, 0⟩

/-- Both parts are zero. -/
def isZero (z : ComplexDouble) : Bool := z.re == 0 && z.im == 0

/-- The parts are equal. -/
def same (z w : ComplexDouble) : Bool := z.re == w.re && z.im == w.im

/-- The opposite number. -/
def neg (z : ComplexDouble) : ComplexDouble := ⟨-z.re, -z.im⟩

/-- The sum. -/
def add (z w : ComplexDouble) : ComplexDouble := ⟨z.re + w.re, z.im + w.im⟩

/-- The difference. -/
def sub (z w : ComplexDouble) : ComplexDouble := ⟨z.re - w.re, z.im - w.im⟩

/-- The product. -/
def mul (z w : ComplexDouble) : ComplexDouble :=
  ⟨z.re * w.re - z.im * w.im, z.re * w.im + z.im * w.re⟩

/-- The quotient by a number that is not zero. The larger part of the divisor is divided out first.
-/
def div (z w : ComplexDouble) : ComplexDouble :=
  if w.im.abs ≤ w.re.abs then
    let ratio := w.im / w.re
    let denominator := w.re + w.im * ratio
    ⟨(z.re + z.im * ratio) / denominator, (z.im - z.re * ratio) / denominator⟩
  else if w.re.abs ≤ w.im.abs then
    let ratio := w.re / w.im
    let denominator := w.re * ratio + w.im
    ⟨(z.re * ratio + z.im) / denominator, (z.im * ratio - z.re) / denominator⟩
  else ⟨0 / 0, 0 / 0⟩

/-- A power with a whole exponent, by squaring: `square` is the base to the power of two that the
lowest digit of the exponent stands for. -/
def powFrom (result square : ComplexDouble) : (fuel : Nat) → Nat → ComplexDouble
  | 0, _ => result
  | n + 1, k =>
    if k == 0 then result
    else
      powFrom (if k % 2 == 1 then result.mul square else result) (square.mul square) n (k / 2)

/-- A power with a whole exponent. -/
def powNat (z : ComplexDouble) (k : Nat) : ComplexDouble :=
  powFrom ⟨1, 0⟩ z (k.log2 + 1) k

/-- A power of a number that is not zero, by its length and angle. -/
def powPolar (z w : ComplexDouble) : ComplexDouble :=
  let size := (z.re * z.re + z.im * z.im).sqrt
  let angle := Float.atan2 z.im z.re
  let length := size.pow w.re
  let phase := angle * w.re
  let (length, phase) :=
    if w.im == 0 then (length, phase)
    else (length * (-(angle * w.im)).exp, phase + w.im * size.log)
  ⟨length * phase.cos, length * phase.sin⟩

/-- A part is infinite. -/
def isInfinite (z : ComplexDouble) : Bool := z.re.isInf || z.im.isInf

/-- The text of a complex number: the imaginary part alone if the real part is a positive zero. -/
def text (z : ComplexDouble) : String :=
  if z.re == 0 && !isNegative z.re then bareText z.im ++ "j"
  else
    let im := bareText z.im
    let sign := if im.startsWith "-" then "" else "+"
    "(" ++ bareText z.re ++ sign ++ im ++ "j)"

end ComplexDouble

end Codebook.Decimal
