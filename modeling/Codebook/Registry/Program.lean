import Codebook.Registry

/-!
# The registries of a program

A program asks for a registry as often as it likes. The first request makes one and sets it up, and
every later one finds it there, so that all registries that a program holds are the same one. To ask
for a new registry is to ask for a registry and to empty it.

A registry is known by its place among those that were made. A program holds the places that it was
given, in the order in which it asked, and the first of them is its default registry.
-/

namespace Codebook.Registry

/-- A registry that was made: what is in it, and whether it was set up. -/
structure Made where
  content : Registry
  isSetUp : Bool

/-- The registries of a program: those made so far, the place of the one that it shares, and the
places that it holds. `setting` is what the environment says about the extractors that come with the
program, and `loads` whether these may run files. -/
structure Program where
  setting : Option String
  loads : Bool
  made : List Made
  shared : Option Nat
  held : List Nat

/-- What a program does with registries: it asks for one, for a new one, or for its default one, or
it registers extractors in one that it holds, given by the number of the request. -/
inductive Call
  | construct
  | create
  | getDefault
  | register (which : Nat) (e : Extractor)
  | registerDefaults (which : Nat)

namespace Program

/-- The place of the shared registry, which is made if there is none. -/
def claim (p : Program) : Program × Nat :=
  match p.shared with
  | some k => (p, k)
  | none =>
    ({ p with made := p.made ++ [⟨empty, false⟩], shared := some p.made.length }, p.made.length)

/-- Sets up the registry at a place, unless this was done before. -/
def setUp (p : Program) (k : Nat) : Program :=
  { p with made := p.made.modify k fun m =>
      if m.isSetUp then m else ⟨initial p.setting p.loads, true⟩ }

/-- A request for a registry. -/
def request (p : Program) : Program × Nat :=
  let (p, k) := p.claim
  (p.setUp k, k)

/-- Changes what is in the registry at a place. -/
def change (p : Program) (k : Nat) (f : Registry → Registry) : Program :=
  { p with made := p.made.modify k fun m => { m with content := f m.content } }

/-- Keeps a place that was given. -/
def hold (p : Program) (k : Nat) : Program :=
  { p with held := p.held ++ [k] }

/-- The place that the request of the given number gave; without such a request, the default one. -/
def place (p : Program) (which : Nat) : Nat :=
  p.held.getD which (p.held.headD 0)

/-- The program after a call. -/
def call (p : Program) : Call → Program
  | .construct =>
    let (p, k) := p.request
    p.hold k
  | .create =>
    let (p, k) := p.request
    (p.change k fun _ => empty).hold k
  | .getDefault => p.hold (p.place 0)
  | .register which e => p.change (p.place which) (·.register e)
  | .registerDefaults which => p.change (p.place which) (·.registerDefaults p.loads)

/-- The program as it starts. It holds its default registry. -/
def start (setting : Option String) (loads : Bool) : Program :=
  call ⟨setting, loads, [], none, []⟩ .construct

/-- The program after several calls. -/
def run (p : Program) (calls : List Call) : Program :=
  calls.foldl call p

/-- What is in the registry that the request of the given number gave. -/
def registry (p : Program) (which : Nat) : Registry :=
  (p.made[p.place which]?.map (·.content)).getD empty

end Program

end Codebook.Registry
