import Codebook.Live.Class
import Codebook.Live.Equality
import Codebook.Source.Printer

/-!
# Arithmetic

The operators on whole numbers, numbers with fractions and complex numbers. Whole numbers have no
limit; one that is too large for a double cannot be used together with one.
-/

namespace Codebook.Live

open Source Decimal

/-- The value as a whole number. -/
def Value.int? : Value → Option Int
  | .int n => some n
  | .bool b => some (boolInt b)
  | _ => .none

/-- The operands do not go with the operation. -/
def unsupported {α : Type} (op : String) (a b : Value) : Run α := do
  let s ← get
  Run.fail (.wrongType ("unsupported operand type(s) for " ++ op ++ ": '" ++ s.typeName a ++
    "' and '" ++ s.typeName b ++ "'"))

/-- How an operator is called in a complaint about its operands. -/
def operatorName (op : BinaryOp) (assigns : Bool) : String :=
  if assigns then op.text.1 ++ "="
  else match op with
    | .pow => "** or pow()"
    | op => op.text.1

/-- A result is out of range. -/
def overflow {α : Type} (message : String) : Run α :=
  Run.raiseWith "OverflowError" [.text message]

/-- A division by zero. -/
def noInverse {α : Type} (message : String) : Run α :=
  Run.raiseWith "ZeroDivisionError" [.text message]

/-! ## Whole numbers -/

/-- A whole number as a double. -/
def toDouble (n : Int) : Run Float :=
  let x := Float.ofInt n
  if x.isInf then overflow "int too large to convert to float" else return x

/-- The digits of a whole number, of `-n - 1` if it is negative. -/
def digitsOf (n : Int) : Nat :=
  if n < 0 then (-n - 1).toNat else n.toNat

/-- The whole number with the given digits. -/
def ofDigitsOf (negative : Bool) (n : Nat) : Int :=
  if negative then -(n : Int) - 1 else n

/-- The binary digits that both numbers have. Negative numbers have endlessly many in front. -/
def bitAnd (a b : Int) : Int :=
  let x := digitsOf a
  let y := digitsOf b
  match decide (a < 0), decide (b < 0) with
  | false, false => (x &&& y : Nat)
  | true, false => (y - (x &&& y) : Nat)
  | false, true => (x - (x &&& y) : Nat)
  | true, true => ofDigitsOf true (x ||| y)

/-- The binary digits that one of the numbers has. -/
def bitOr (a b : Int) : Int :=
  -(bitAnd (-a - 1) (-b - 1)) - 1

/-- The binary digits that only one of the numbers has. -/
def bitXor (a b : Int) : Int :=
  ofDigitsOf (decide (a < 0) != decide (b < 0)) (digitsOf a ^^^ digitsOf b)

/-- The quotient of whole numbers as a double. -/
def divideInts (a b : Int) : Run Value :=
  if b == 0 then Run.fail (.divisionByZero "division")
  else
    let x := ofQuotient a.natAbs b.natAbs
    if x.isInf then overflow "integer division result too large for a float"
    else return .float (if (a < 0) != (b < 0) && a != 0 then -x else x)

/-! ## Numbers with fractions -/

/-- A power of complex numbers. -/
def powComplex (z w : ComplexDouble) : Run Value :=
  let isSmall := w.im == 0 && w.re == w.re.floor && w.re.abs ≤ 100
  if isSmall then
    let k := w.re.abs.toUInt64.toNat
    if 0 < w.re then finite (z.powNat k)
    else if (z.powNat k).isZero then zeroPower
    else finite (ComplexDouble.div ⟨1, 0⟩ (z.powNat k))
  else if z.isZero then
    if w.im != 0 || w.re < 0 then zeroPower else return .complex ⟨0, 0⟩
  else finite (z.powPolar w)
where
  /-- A result that must not be infinite. -/
  finite (r : ComplexDouble) : Run Value :=
    if r.isInfinite then overflow "complex exponentiation" else return .complex r
  /-- Zero has no such power. -/
  zeroPower : Run Value := noInverse "0.0 to a negative or complex power"

/-- A power of numbers with fractions. A broken power of a negative number is complex. -/
def powFloat (a b : Float) : Run Value :=
  if a == 0 && b < 0 then noInverse "0.0 cannot be raised to a negative power"
  else if a < 0 && !a.isInf && !b.isInf && b != b.floor then powComplex (.ofReal a) (.ofReal b)
  else
    let r := a.pow b
    if r.isInf && !a.isInf && !b.isInf then
      Run.raiseWith "OverflowError" [.int 34, .text "Numerical result out of range"]
    else return .float r

/-- Arithmetic on numbers with fractions. -/
def floatOp (op : BinaryOp) (a b : Float) (other : Run Value) : Run Value :=
  match op with
  | .add => return .float (a + b)
  | .sub => return .float (a - b)
  | .mul => return .float (a * b)
  | .div =>
    if b == 0 then Run.fail (.divisionByZero "float division") else return .float (a / b)
  | .floorDiv =>
    if b == 0 then Run.fail (.divisionByZero "float floor division")
    else return .float (floorQuotient a b)
  | .mod =>
    if b == 0 then noInverse "float modulo" else return .float (floorRemainder a b)
  | .pow => powFloat a b
  | _ => other

/-- Arithmetic on whole numbers. -/
def intOp (op : BinaryOp) (a b : Int) (other : Run Value) : Run Value :=
  match op with
  | .add => return .int (a + b)
  | .sub => return .int (a - b)
  | .mul => return .int (a * b)
  | .div => divideInts a b
  | .floorDiv =>
    if b == 0 then Run.fail (.divisionByZero "integer division or modulo")
    else return .int (a.fdiv b)
  | .mod =>
    if b == 0 then Run.fail (.divisionByZero "integer modulo") else return .int (a.fmod b)
  | .pow =>
    if 0 ≤ b then return .int (a.pow b.toNat) else do powFloat (← toDouble a) (← toDouble b)
  | .shiftLeft =>
    if b < 0 then Run.fail (.wrongValue "negative shift count")
    else return .int (a * Int.pow 2 b.toNat)
  | .shiftRight =>
    if b < 0 then Run.fail (.wrongValue "negative shift count")
    else return .int (a.fdiv (Int.pow 2 b.toNat))
  | .bitAnd => return .int (bitAnd a b)
  | .bitOr => return .int (bitOr a b)
  | .bitXor => return .int (bitXor a b)
  | .matMul => other

/-- Arithmetic on complex numbers. -/
def complexOp (op : BinaryOp) (a b : ComplexDouble) (other : Run Value) : Run Value :=
  match op with
  | .add => return .complex (a.add b)
  | .sub => return .complex (a.sub b)
  | .mul => return .complex (a.mul b)
  | .div =>
    if b.isZero then Run.fail (.divisionByZero "complex division") else return .complex (a.div b)
  | .pow => powComplex a b
  | _ => other

/-! ## All numbers -/

/-- A number as a double. -/
def Quantity.toFloat : Quantity → Run Float
  | .int n => toDouble n
  | .float x => return x
  | .complex z => return z.re

/-- A number as a complex number. -/
def Quantity.toComplex : Quantity → Run ComplexDouble
  | .int n => do return .ofReal (← toDouble n)
  | .float x => return .ofReal x
  | .complex z => return z

/-- Arithmetic on two numbers; `other` is what an operator does that they have not. Whole numbers
become doubles beside a double, and all numbers complex beside a complex one. -/
def Quantity.combine (op : BinaryOp) (other : Run Value) : Quantity → Quantity → Run Value
  | .int a, .int b => intOp op a b other
  | .complex a, b => if hasComplex then do complexOp op a (← b.toComplex) other else other
  | a, .complex b => if hasComplex then do complexOp op (← a.toComplex) b other else other
  | a, b => if hasFloat then do floatOp op (← a.toFloat) (← b.toFloat) other else other
where
  /-- The operator is one of complex numbers. -/
  hasComplex : Bool := [BinaryOp.add, .sub, .mul, .div, .pow].contains op
  /-- The operator is one of doubles. -/
  hasFloat : Bool := hasComplex || op == .floorDiv || op == .mod

/-- One number is less than another; complex numbers have no order. -/
def Quantity.before? : Quantity → Quantity → Option Bool
  | .int a, .int b => some (a < b)
  | .float a, .float b => some (a < b)
  | .int a, .float b =>
    some (if b.isNaN then false else if b.isInf then 0 < b else Dyadic.ofInt a < exact b)
  | .float a, .int b =>
    some (if a.isNaN then false else if a.isInf then a < 0 else exact a < Dyadic.ofInt b)
  | _, _ => none

/-- An operator before a number. -/
def Quantity.signed? (op : UnaryOp) : Quantity → Option Value
  | .int n =>
    match op with
    | .minus => some (.int (-n))
    | .plus => some (.int n)
    | .invert => some (.int (-n - 1))
    | .not => none
  | .float x =>
    match op with
    | .minus => some (.float (-x))
    | .plus => some (.float x)
    | _ => none
  | .complex z =>
    match op with
    | .minus => some (.complex z.neg)
    | .plus => some (.complex z)
    | _ => none

end Codebook.Live
