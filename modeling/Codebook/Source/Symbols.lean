import Codebook.Source.Scope

/-!
# The rules on names

Beside its grammar a source file has rules on names to keep: no parameter twice, no declaration after
a use, no `nonlocal` name without a function around that binds it, and no assignment inside a
comprehension to a name that the comprehension runs over.

`namesAgree` follows the occurrences of names in order, marks in a table for each body what happens
to each name there, and looks at the tables when all are complete.
-/

namespace Codebook.Source

/-! ## Tables -/

/-- What happens to a name in a body. -/
structure Marks where
  used : Bool := false
  bound : Bool := false
  param : Bool := false
  hinted : Bool := false
  imported : Bool := false
  global : Bool := false
  nonlocal : Bool := false
  looped : Bool := false
  deriving DecidableEq, Repr

/-- The names of a body with their marks. -/
abbrev Names := List (String × Marks)

/-- A body that is complete, with the bodies inside it. -/
inductive NameScope
  | mk (kind : BlockKind) (names : Names) (inner : List NameScope)

/-- A body that is being read. Private names belong to the class `owner`. -/
structure Level where
  kind : BlockKind
  owner : Option String
  names : Names
  inner : List NameScope

namespace Level

/-- The marks of a name. -/
def marks (l : Level) (name : String) : Marks :=
  (l.names.lookup name).getD {}

/-- The marks of a name that may be private. -/
def marksOf (l : Level) (name : String) : Marks :=
  l.marks (mangle l.owner name)

/-- Marks a name. In the target of a comprehension no name may be marked that the comprehension
assigns to elsewhere. -/
def mark (l : Level) (inTarget : Bool) (f : Marks → Marks) (name : String) : Option Level :=
  let name := mangle l.owner name
  let m := f (l.marks name)
  if inTarget && (m.global || m.nonlocal) then none
  else
    let m := { m with looped := m.looped || inTarget }
    some { l with names := (name, m) :: l.names.filter (·.1 != name) }

/-- Adds a parameter, which must be new. -/
def addParameter (l : Level) (name : String) : Option Level :=
  if (l.marksOf name).param then none else l.mark false ({ · with param := true }) name

/-- The name has not been met before a declaration. -/
def isFresh (l : Level) (name : String) : Bool :=
  let m := l.marksOf name
  !(m.param || m.bound || m.used || m.hinted)

end Level

/-- The body in which an assignment inside a comprehension binds a name: that of the function around
it, or of the file, where the name is then global. No class can be that body, and no comprehension on
the way may bind the name by what it runs over. -/
def bindAround (name : String) : List Level → Option (Bool × List Level)
  | [] => none
  | l :: ls =>
    match l.kind with
    | .comprehension =>
      let m := l.marks name
      if m.looped && (m.bound || m.global) then none
      else (bindAround name ls).map fun r => (r.1, l :: r.2)
    | .hint => (bindAround name ls).map fun r => (r.1, l :: r.2)
    | .function =>
      (l.mark false ({ · with bound := true }) name).map fun m =>
        ((l.marks name).global, m :: ls)
    | .module => (l.mark false ({ · with global := true }) name).map fun m => (true, m :: ls)
    | .classBody _ => none

/-- An assignment inside an expression. -/
def noteWalrus (inTarget : Bool) (name : String) (l : Level) (around : List Level) :
    Option (Level × List Level) := do
  if l.kind == .comprehension then
    match ← bindAround name (l :: around) with
    | (isGlobal, l :: around) =>
      let f := fun m : Marks =>
        { m with global := m.global || isGlobal, nonlocal := m.nonlocal || !isGlobal }
      let l ← l.mark inTarget f name
      return (← l.mark inTarget ({ · with bound := true }) name, around)
    | (_, []) => none
  else return (← l.mark inTarget ({ · with bound := true }) name, around)

/-- A name is read. In a function, `super` reads the class around it too. -/
def noteUse (inTarget : Bool) (name : String) (l : Level) : Option Level := do
  let l ← l.mark inTarget ({ · with used := true }) name
  let isFunction := l.kind == .function || l.kind == .comprehension
  if isFunction && name == "super" then l.mark inTarget ({ · with used := true }) "__class__"
  else return l

mutual

/-- An occurrence in a body, with the bodies around it. -/
def Occurrence.note (inTarget : Bool) (l : Level) (around : List Level) :
    Occurrence → Option (Level × List Level)
  | .use name => do return (← noteUse inTarget name l, around)
  | .bind name => do return (← l.mark inTarget ({ · with bound := true }) name, around)
  | .imported name => do return (← l.mark inTarget ({ · with imported := true }) name, around)
  | .walrus name => noteWalrus inTarget name l around
  | .hint name => do
    let m := l.marksOf name
    if (m.global || m.nonlocal) && l.kind != .module then none
    else return (← l.mark inTarget ({ · with hinted := true, bound := true }) name, around)
  | .global name => do
    if l.isFresh name then
      return (← l.mark inTarget ({ · with global := true }) name, around)
    else none
  | .nonlocal name => do
    if l.isFresh name then
      return (← l.mark inTarget ({ · with nonlocal := true }) name, around)
    else none
  | .target body => noteAll true l around body
  | .inner kind params body => do
    let owner := match kind with
      | .classBody name => some name
      | _ => l.owner
    let start ← params.foldlM Level.addParameter ⟨kind, owner, [], []⟩
    match ← noteAll false start (l :: around) body with
    | (done, l :: around) =>
      if kind == .hint then return (l, around)
      else return ({ l with inner := l.inner ++ [.mk kind done.names done.inner] }, around)
    | (_, []) => none

/-- Occurrences in a body one after another. -/
def noteAll (inTarget : Bool) (l : Level) (around : List Level) :
    List Occurrence → Option (Level × List Level)
  | [] => some (l, around)
  | o :: os => do
    let (l, around) ← o.note inTarget l around
    noteAll inTarget l around os

end

/-! ## Complete bodies -/

/-- The declarations in a body make sense where the functions around it bind the given names; there
are none around a file. -/
def declarationsAgree (around : Option (List String)) (names : Names) : Bool :=
  names.all fun (name, m) =>
    if m.global then !m.nonlocal else !m.nonlocal || around.any (·.contains name)

/-- The names that the bodies inside find bound around them. -/
def boundBelow (kind : BlockKind) (around : List String) (names : Names) : List String :=
  match kind with
  | .module => []
  | .classBody _ => "__class__" :: around
  | _ =>
    let own := names.filter fun (_, m) =>
      (m.bound || m.param || m.imported) && !m.global && !m.nonlocal
    let globals := (names.filter (·.2.global)).map (·.1)
    own.map (·.1) ++ around.filter (!globals.contains ·)

mutual

/-- The declarations in a body and in those inside it make sense. -/
def NameScope.agrees (around : Option (List String)) : NameScope → Bool
  | .mk kind names inner =>
    declarationsAgree around names && allAgree (boundBelow kind (around.getD []) names) inner

/-- The declarations in several bodies make sense. -/
def allAgree (around : List String) : List NameScope → Bool
  | [] => true
  | s :: ss => s.agrees (some around) && allAgree around ss

end

/-- The statements of a source file keep the rules on names. -/
def namesAgree (later : Bool) (body : List Stmt) : Bool :=
  match noteAll false ⟨.module, none, [], []⟩ [] (occurrencesOf later body) with
  | some (l, _) => (NameScope.mk .module l.names l.inner).agrees none
  | none => false

end Codebook.Source
