import Codebook.Live.Equality

/-!
# The order of a set

The items of a set stand in a table whose size is a power of two, each at the place that a number
made from it says or, where that is taken, at one of the places after it. The table grows when three
fifths of it are taken. The order of the set is the order of the table.

Numbers, and tuples of them, have such a number. Where an item has none the set keeps the order in
which its items came.
-/

namespace Codebook.Live

open Decimal

/-! ## The number of an item -/

/-- Numbers are counted modulo this prime. -/
def hashModulus : Nat := Nat.pow 2 61 - 1

/-- The number made from `m · 2 ^ e`. -/
def hashScaled (negative : Bool) (m : Nat) (e : Int) : Int :=
  let r : Int := (m % hashModulus * Nat.pow 2 (e % 61).toNat % hashModulus : Nat)
  let h := if negative then -r else r
  if h == -1 then -2 else h

/-- The number made from a double. -/
def hashFloat (x : Float) : Option Int :=
  if x.isNaN then none
  else if x.isInf then some (if isNegative x then -314159 else 314159)
  else
    let b := Binary.ofBits x.toBits
    some (hashScaled (isNegative x) b.mantissa b.exponent)

/-- A number with 64 binary digits. -/
def word (n : Int) : UInt64 :=
  UInt64.ofNat (n % (Nat.pow 2 64 : Nat)).toNat

/-- The number made from a number. -/
def Quantity.hash? : Quantity → Option UInt64
  | .int n => some (word (hashScaled (n < 0) n.natAbs 0))
  | .float x => (hashFloat x).map word
  | .complex z => do
    let h := word (← hashFloat z.re) + 1000003 * word (← hashFloat z.im)
    return if h == word (-1) then word (-2) else h

/-- One more item of a tuple. -/
def mixHash (acc lane : UInt64) : UInt64 :=
  let acc := acc + lane * 14029467366897019727
  ((acc <<< 31) ||| (acc >>> 33)) * 11400714785074694791

mutual

/-- The number made from a value. -/
def Value.hash? : Value → Option UInt64
  | .tuple items => do
    let acc ← hashAll? 2870177450012600261 items
    let acc := acc + (UInt64.ofNat items.length ^^^ (2870177450012600261 ^^^ 3527539))
    return if acc == word (-1) then 1546275796 else acc
  | v => v.quantity?.bind Quantity.hash?

/-- The number made from the items of a tuple. -/
def hashAll? (acc : UInt64) : List Value → Option UInt64
  | [] => some acc
  | v :: vs => do hashAll? (mixHash acc (← v.hash?)) vs

end

/-! ## The table -/

/-- An item with its number. -/
structure Placed where
  hash : UInt64
  value : Value

/-- A table with a power of two of places. -/
abbrev Slots := Array (Option Placed)

/-- An empty table. -/
def emptySlots (size : Nat) : Slots := Array.replicate size none

/-- The items of a table in its order. -/
def placedItems (t : Slots) : List Placed := t.toList.filterMap id

/-- The place is free. -/
def isFreeSlot (t : Slots) (i : Nat) : Bool :=
  match t[i]? with
  | some none => true
  | _ => false

/-- The first free place from `i` on: ten places in a row, as far as they do not reach over the end,
then those at another place that the higher digits of the number choose. -/
def freePlace (t : Slots) : (fuel : Nat) → Nat → UInt64 → Nat
  | 0, i, _ => i
  | n + 1, i, rest =>
    let row := if i + 9 < t.size then 10 else 1
    match (List.range row).find? fun k => isFreeSlot t (i + k) with
    | some k => i + k
    | none =>
      let rest := rest >>> 5
      freePlace t n ((i * 5 + 1 + rest.toNat) % t.size) rest

/-- The table with one more item. -/
def putPlaced (t : Slots) (p : Placed) : Slots :=
  t.setIfInBounds (freePlace t (t.size + 16) (p.hash.toNat % t.size) p.hash) (some p)

/-- The least power of two above a number, and at least eight. -/
def sizeAbove (n : Nat) : Nat :=
  max 8 (Nat.pow 2 (n.log2 + 1))

/-- A table of the given size with some items. -/
def slotsOf (size : Nat) (ps : List Placed) : Slots :=
  ps.foldl putPlaced (emptySlots size)

/-- The table grows if three fifths of it are taken. -/
def grown (t : Slots) : Slots :=
  let ps := placedItems t
  let used := ps.length
  if used * 5 < (t.size - 1) * 3 then t
  else slotsOf (sizeAbove (if 50000 < used then used * 2 else used * 4)) ps

/-- The table of items that come one after another. -/
def slotsOneByOne (ps : List Placed) : Slots :=
  ps.foldl (fun t p => grown (putPlaced t p)) (emptySlots 8)

/-- The table of a new set that takes over the items of another one at once. -/
def slotsCopied (t : Slots) : Slots :=
  let ps := placedItems t
  let size := if ps.length * 5 < 21 then 8 else sizeAbove (ps.length * 2)
  if size == t.size then t else slotsOf size ps

/-! ## Sets -/

/-- Items with their numbers, if all have one. -/
def placed? (vs : List Value) : Option (List Placed) :=
  vs.mapM fun v => v.hash?.map fun h => ⟨h, v⟩

/-- The distinct items of a set in its order, where they came one after another. -/
def setOrder (vs : List Value) : List Value :=
  let vs := distinct vs
  match placed? vs with
  | some ps => (placedItems (slotsOneByOne ps)).map (·.value)
  | none => vs

/-- The distinct items of a set in its order, where all were known before the run. The constant is
made, made again in its own order, and taken over by a new set. -/
def constantOrder (vs : List Value) : List Value :=
  let vs := distinct vs
  match placed? vs with
  | some ps =>
    let again := slotsOneByOne (placedItems (slotsOneByOne ps))
    (placedItems (slotsCopied again)).map (·.value)
  | none => vs

end Codebook.Live
