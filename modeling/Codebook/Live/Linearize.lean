/-!
# One order from many

`merge` joins several lists into one that respects each of them: it takes, again and again, the
first head that no list has behind its own head. Where there is no such head, the lists contradict
each other.
-/

namespace Codebook.Live

variable {α : Type} [DecidableEq α]

/-- No list has `a` behind its head. -/
def isFree (ls : List (List α)) (a : α) : Bool :=
  ls.all fun l => !l.tail.contains a

/-- The first head that is free. -/
def freeHead? (ls : List (List α)) : Option α :=
  (ls.filterMap List.head?).find? (isFree ls)

/-- The lists without `a` at the head. -/
def dropHead (a : α) (ls : List (List α)) : List (List α) :=
  ls.map fun l => if l.head? == some a then l.tail else l

/-- At most `fuel` steps of the merge. -/
def mergeSteps : (fuel : Nat) → List (List α) → Option (List α)
  | 0, _ => some []
  | n + 1, ls =>
    let ls := ls.filter fun l => !l.isEmpty
    if ls.isEmpty then some []
    else do
      let a ← freeHead? ls
      let rest ← mergeSteps n (dropHead a ls)
      return a :: rest

/-- One list that respects the order of each of the given lists. -/
def merge (ls : List (List α)) : Option (List α) :=
  mergeSteps (ls.flatten.length + 1) ls

/-- The order of a class: itself, then the orders of its bases merged, the bases in their own order.
-/
def linearize (self : α) (orders : List (List α)) (bases : List α) : Option (List α) :=
  (merge (orders ++ [bases])).map (self :: ·)

end Codebook.Live
