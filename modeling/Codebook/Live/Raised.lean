import Codebook.Live.Execute

/-!
# Texts and exceptions

`Run.written` and `Run.told` give the texts of values, in a source's notation and for a reader. To ask
a value for its text may run code of the source. `Store.raised` gives an exception that ended a run
by its class and its wording.
-/

namespace Codebook.Live

/-- An exception by its class, wording and arguments. `kinds` are the classes without a definition
that it belongs to. -/
structure Raised where
  kind : String
  message : String
  arguments : List Value
  kinds : List String
  deriving Repr

/-- The classes of an order that need no definition. -/
def knownNames (order : List ClassRef) : List String :=
  order.filterMap fun
    | .known name => some name
    | .defined _ => none

namespace Run

/-- The text that a run gives, or the usual one if it is followed no further. Then it is as if it had
not been made. -/
def orUsual (usual : Store → String) (r : Run String) : Run String := do
  let s ← get
  tryCatch r fun
    | .beyond => do
      set s
      return usual s
    | e => throw e

/-- A value in a source's own notation. -/
def written (v : Value) : Run String :=
  orUsual (·.repr v) (reprOf (machine callLimit) v)

/-- A value for a reader. -/
def told (v : Value) : Run String :=
  orUsual (·.str v) (textOf (machine callLimit) v)

end Run

/-- An exception as it is told. One that cannot be told has no wording. -/
def Store.raised (s : Store) (e : Value) : Raised where
  kind := s.typeName e
  message := ((Run.told e).run.run s).1.toOption.getD "<exception str() failed>"
  arguments := match e with
    | .object id => (s.object id).args
    | _ => []
  kinds := knownNames (s.order (s.classOf e))

end Codebook.Live
