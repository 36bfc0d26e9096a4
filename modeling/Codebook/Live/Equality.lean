import Codebook.Live.Value

/-!
# Equal values

Numbers are equal if they stand for the same number, whatever their kind. Sets and dictionaries are
equal whatever the order of their items, and so are alternatives of types.
-/

namespace Codebook.Live

open Decimal

/-- A number: whole, with a fraction, or complex. -/
inductive Quantity
  | int (n : Int)
  | float (x : Float)
  | complex (z : ComplexDouble)

/-- A truth value as a number. -/
def boolInt (b : Bool) : Int := if b then 1 else 0

/-- The value as a number. -/
def Value.quantity? : Value → Option Quantity
  | .bool b => some (.int (boolInt b))
  | .int n => some (.int n)
  | .float x => some (.float x)
  | .complex z => some (.complex z)
  | _ => .none

/-- Two numbers are equal. -/
def Quantity.same : Quantity → Quantity → Bool
  | .int a, .int b => a == b
  | .int a, .float b => equalsInt b a
  | .float a, .int b => equalsInt a b
  | .float a, .float b => a == b
  | .complex a, .complex b => a.same b
  | .complex a, .int b => a.im == 0 && equalsInt a.re b
  | .int a, .complex b => b.im == 0 && equalsInt b.re a
  | .complex a, .float b => a.im == 0 && a.re == b
  | .float a, .complex b => b.im == 0 && a == b.re

mutual

/-- Two values are equal. -/
def Value.same : Value → Value → Bool
  | .none, .none => true
  | .ellipsis, .ellipsis => true
  | .notImplemented, .notImplemented => true
  | .text a, .text b => a == b
  | .bytes a, .bytes b => a == b
  | .tuple a, .tuple b => sameAll a b
  | .list a, .list b => sameAll a b
  | .set a, .set b => a.length == b.length && allAmong a b
  | .dict a, .dict b => a.length == b.length && itemsAmong a b
  | .cls a, .cls b => a == b
  | .function a, .function b => a == b
  | .bound a f, .bound b g => a.same b && f == g
  | .object a, .object b => a == b
  | .native a, .native b => a == b
  | .module a, .module b => a == b
  | .form a as, .form b bs => a == b && sameArguments (a == "Union") as bs
  | .generic a as, .generic b bs => a == b && sameAll as bs
  | .form a as, .union bs => a == "Union" && sameArguments true as (some bs)
  | .union as, .form b (some bs) => b == "Union" && as.length == bs.length && allAmong as bs
  | .union as, .union bs => as.length == bs.length && allAmong as bs
  | .forward a, .forward b => a == b
  | .unpacked a, .unpacked b => a.same b
  | a, b =>
    match a.quantity?, b.quantity? with
    | some x, some y => x.same y
    | _, _ => false
termination_by structural a => a

/-- The arguments of two forms are equal; `anyOrder` if their order does not count. -/
def sameArguments (anyOrder : Bool) : Option (List Value) → Option (List Value) → Bool
  | none, none => true
  | some as, some bs =>
    if anyOrder then as.length == bs.length && allAmong as bs else sameAll as bs
  | _, _ => false
termination_by structural as => as

/-- Two lists have equal items. -/
def sameAll : List Value → List Value → Bool
  | [], [] => true
  | a :: as, b :: bs => a.same b && sameAll as bs
  | _, _ => false
termination_by structural as => as

/-- Every value has an equal one among others. -/
def allAmong : List Value → List Value → Bool
  | [], _ => true
  | a :: as, bs => (bs.any fun b => a.same b) && allAmong as bs
termination_by structural as => as

/-- An item of a dictionary has an equal one among others. -/
def itemAmong : Value × Value → List (Value × Value) → Bool
  | (k, v), bs => bs.any fun b => k.same b.1 && v.same b.2
termination_by structural item => item

/-- Every item of a dictionary has an equal one among others. -/
def itemsAmong : List (Value × Value) → List (Value × Value) → Bool
  | [], _ => true
  | a :: as, bs => itemAmong a bs && itemsAmong as bs
termination_by structural as => as

end

/-- The value can be the key of a dictionary. -/
def Value.isKey : Value → Bool
  | .list _ => false
  | .set _ => false
  | .dict _ => false
  | .tuple items => keysAll items
  | _ => true
where
  /-- Every item can be a key. -/
  keysAll : List Value → Bool
    | [] => true
    | v :: vs => v.isKey && keysAll vs

/-- A value is among others. -/
def among (vs : List Value) (v : Value) : Bool :=
  vs.any v.same

/-- The values without repetitions, each at its first place. -/
def distinct (vs : List Value) : List Value :=
  vs.foldl (fun seen v => if among seen v then seen else seen ++ [v]) []

end Codebook.Live
