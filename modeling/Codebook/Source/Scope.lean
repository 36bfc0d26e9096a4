import Codebook.Source.Basic
import Codebook.Text.Lines

/-!
# Names and their scopes

What happens to the names in a body, in the order in which a reader meets it, and the names that
belong to a body.
-/

namespace Codebook.Source

/-- A private name of a class is kept apart from those of other classes. -/
def mangle (className : Option String) (name : String) : String :=
  match className with
  | none => name
  | some c =>
    let bare := String.ofList (c.toList.dropWhile (· == '_'))
    if name.startsWith "__" && !name.endsWith "__" && bare != "" && !name.toList.contains '.' then
      "_" ++ bare ++ name
    else name

/-! ## Occurrences of names -/

/-- The bodies that have names of their own. A hint is one where hints are kept as text. -/
inductive BlockKind
  | module
  | function
  | classBody (name : String)
  | comprehension
  | hint
  deriving DecidableEq, Repr

/-- What happens to names in a body, in order: a name is read, bound, bound by an import, bound by an
assignment inside an expression, given a type, declared, something happens in the target of a
comprehension, or there is a body inside with names of its own. -/
inductive Occurrence
  | use (name : String)
  | bind (name : String)
  | imported (name : String)
  | walrus (name : String)
  | hint (name : String)
  | global (name : String)
  | nonlocal (name : String)
  | target (body : List Occurrence)
  | inner (kind : BlockKind) (params : List String) (body : List Occurrence)
  deriving Repr

/-- The name that an import binds: the first part of a dotted name, unless it gets another. -/
def Alias.bound (a : Alias) : String :=
  a.asName.getD ((Text.dottedParts a.name).headD "")

mutual

/-- The occurrences in an expression. -/
def Expr.occurrences : Expr → List Occurrence
  | .name id => [.use id]
  | .constant _ => []
  | .joined parts => occurrencesIn parts
  | .formatted value _ spec => value.occurrences ++ occurrencesOption spec
  | .binary _ l r => l.occurrences ++ r.occurrences
  | .unary _ e => e.occurrences
  | .bool _ es => occurrencesIn es
  | .compare l rest => l.occurrences ++ occurrencesCompared rest
  | .conditional t a b => t.occurrences ++ a.occurrences ++ b.occurrences
  | .lambda params body =>
    occurrencesDefaults params ++ [.inner .function (params.map (·.name)) body.occurrences]
  | .tuple es => occurrencesIn es
  | .list es => occurrencesIn es
  | .set es => occurrencesIn es
  | .dict items => occurrencesItems items
  | .comprehension _ e cs =>
    let (first, rest) := occurrencesClauses true cs
    first ++ [.inner .comprehension [] (rest ++ e.occurrences)]
  | .dictComprehension k v cs =>
    let (first, rest) := occurrencesClauses true cs
    first ++ [.inner .comprehension [] (rest ++ v.occurrences ++ k.occurrences)]
  | .call f args keywords => f.occurrences ++ occurrencesIn args ++ occurrencesKeywords keywords
  | .attribute e _ => e.occurrences
  | .subscript e i => e.occurrences ++ i.occurrences
  | .slice a b c => occurrencesOption a ++ occurrencesOption b ++ occurrencesOption c
  | .starred e => e.occurrences
  | .walrus name e => .walrus name :: e.occurrences
  | .await e => e.occurrences
  | .yield e => occurrencesOption e
  | .yieldFrom e => e.occurrences

/-- The occurrences in an assignment's target. -/
def Expr.targets : Expr → List Occurrence
  | .name id => [.bind id]
  | .tuple es => targetsIn es
  | .list es => targetsIn es
  | .starred e => e.targets
  | .attribute e _ => e.occurrences
  | .subscript e i => e.occurrences ++ i.occurrences
  | _ => []

/-- The occurrences in targets. -/
def targetsIn : List Expr → List Occurrence
  | [] => []
  | e :: es => e.targets ++ targetsIn es

/-- The occurrences in expressions. -/
def occurrencesIn : List Expr → List Occurrence
  | [] => []
  | e :: es => e.occurrences ++ occurrencesIn es

/-- The occurrences in an expression that may be missing. -/
def occurrencesOption : Option Expr → List Occurrence
  | some e => e.occurrences
  | none => []

/-- The occurrences in comparisons. -/
def occurrencesCompared : List (CompareOp × Expr) → List Occurrence
  | [] => []
  | (_, e) :: rest => e.occurrences ++ occurrencesCompared rest

/-- The occurrences in the items of a dictionary. -/
def occurrencesItems : List (Option Expr × Expr) → List Occurrence
  | [] => []
  | (k, v) :: rest => occurrencesOption k ++ v.occurrences ++ occurrencesItems rest

/-- The occurrences in arguments by name. -/
def occurrencesKeywords : List (Option String × Expr) → List Occurrence
  | [] => []
  | (_, v) :: rest => v.occurrences ++ occurrencesKeywords rest

/-- The occurrences in defaults of parameters. -/
def occurrencesDefaults : List (Parameter Expr) → List Occurrence
  | [] => []
  | ⟨_, _, _, d⟩ :: rest => occurrencesOption d ++ occurrencesDefaults rest

/-- The occurrences in clauses: those outside the comprehension, which are those in what the first
clause runs over, and those inside. -/
def occurrencesClauses (isFirst : Bool) : List (Clause Expr) → List Occurrence × List Occurrence
  | [] => ([], [])
  | ⟨_, target, iter, conditions⟩ :: rest =>
    let here := occurrencesIn conditions
    let (_, more) := occurrencesClauses false rest
    if isFirst then (iter.occurrences, .target target.targets :: here ++ more)
    else ([], .target target.targets :: iter.occurrences ++ here ++ more)

end

mutual

/-- The occurrences in a pattern. -/
def Pattern.occurrences : Pattern → List Occurrence
  | .wildcard => []
  | .capture name => [.bind name]
  | .value e => e.occurrences
  | .sequence ps => patternOccurrences ps
  | .star name => name.toList.map .bind
  | .mapping keys rest => keyOccurrences keys ++ rest.toList.map .bind
  | .shape of ps ks => of.occurrences ++ patternOccurrences ps ++ keywordOccurrences ks
  | .either ps => patternOccurrences ps
  | .named p name => p.occurrences ++ [.bind name]

/-- The occurrences in patterns. -/
def patternOccurrences : List Pattern → List Occurrence
  | [] => []
  | p :: ps => p.occurrences ++ patternOccurrences ps

/-- The occurrences in the keys and values of a mapping's pattern. -/
def keyOccurrences : List (Expr × Pattern) → List Occurrence
  | [] => []
  | (k, p) :: ps => k.occurrences ++ p.occurrences ++ keyOccurrences ps

/-- The occurrences in patterns of attributes. -/
def keywordOccurrences : List (String × Pattern) → List Occurrence
  | [] => []
  | (_, p) :: ps => p.occurrences ++ keywordOccurrences ps

end

/-- The occurrences in hints, which have names of their own where hints are kept as text. -/
def hintOccurrences (later : Bool) (os : List Occurrence) : List Occurrence :=
  if later then [.inner .hint [] os] else os

/-- The occurrences in the hints of a function. -/
def signatureOccurrences (later : Bool) (params : List (Parameter Expr)) (returns : Option Expr) :
    List Occurrence :=
  hintOccurrences later (params.flatMap fun p => occurrencesOption p.hint) ++
    hintOccurrences later (occurrencesOption returns)

mutual

/-- The occurrences in a statement; hints are kept as text if `later`. -/
def Stmt.occurrences (later : Bool) : Stmt → List Occurrence
  | .expr e => e.occurrences
  | .assign targets value => targetsIn targets ++ value.occurrences
  | .augment target _ value => target.targets ++ value.occurrences
  | .annotate target hint value simple =>
    (match simple, target with
      | true, .name id => [.hint id]
      | false, .name id => if value.isSome then [.bind id] else []
      | _, target => target.targets) ++
      hintOccurrences later hint.occurrences ++ occurrencesOption value
  | .ret value => occurrencesOption value
  | .delete targets => targetsIn targets
  | .pass => []
  | .breakLoop => []
  | .continueLoop => []
  | .raise e c => occurrencesOption e ++ occurrencesOption c
  | .global names => names.map .global
  | .nonlocal names => names.map .nonlocal
  | .assert t m => t.occurrences ++ occurrencesOption m
  | .importNames names => names.map fun a => .imported a.bound
  | .importFrom _ _ names =>
    (names.filter (·.name != "*")).map fun a => .imported (a.asName.getD a.name)
  | .cond t body orelse => t.occurrences ++ occurrencesOf later body ++ occurrencesOf later orelse
  | .whileLoop t body orelse =>
    t.occurrences ++ occurrencesOf later body ++ occurrencesOf later orelse
  | .forLoop _ target iter body orelse =>
    target.targets ++ iter.occurrences ++ occurrencesOf later body ++ occurrencesOf later orelse
  | .withItems _ items body =>
    items.flatMap (fun i => i.1.occurrences ++ (i.2.map Expr.targets).getD []) ++
      occurrencesOf later body
  | .tryBlock body _ handlers orelse final =>
    occurrencesOf later body ++ occurrencesOf later orelse ++ occurrencesHandlers later handlers ++
      occurrencesOf later final
  | .choose subject cases => subject.occurrences ++ occurrencesCases later cases
  | .functionDef ⟨_, name, params, returns, decorators, body⟩ =>
    .bind name :: params.flatMap (fun p => occurrencesOption p.default) ++
      signatureOccurrences later params returns ++ occurrencesIn decorators ++
      [.inner .function (params.map (·.name)) (occurrencesOf later body)]
  | .classDef ⟨name, bases, keywords, decorators, body⟩ =>
    .bind name :: occurrencesIn bases ++ occurrencesKeywords keywords ++ occurrencesIn decorators ++
      [.inner (.classBody name) [] (occurrencesOf later body)]

/-- The occurrences in statements. -/
def occurrencesOf (later : Bool) : List Stmt → List Occurrence
  | [] => []
  | s :: ss => s.occurrences later ++ occurrencesOf later ss

/-- The occurrences in handlers. -/
def occurrencesHandlers (later : Bool) : List (Handler Stmt) → List Occurrence
  | [] => []
  | ⟨type, name, body⟩ :: rest =>
    occurrencesOption type ++ name.toList.map .bind ++ occurrencesOf later body ++
      occurrencesHandlers later rest

/-- The occurrences in cases. -/
def occurrencesCases (later : Bool) : List (Case Stmt) → List Occurrence
  | [] => []
  | ⟨pattern, guard, body⟩ :: rest =>
    pattern.occurrences ++ occurrencesOption guard ++ occurrencesOf later body ++
      occurrencesCases later rest

end

/-! ## What a body binds -/

mutual

/-- The names bound by an assignment inside an expression, also through a comprehension. -/
def Occurrence.walrusNames : Occurrence → List String
  | .walrus name => [name]
  | .inner .comprehension _ body => walrusNames body
  | _ => []

/-- The names bound by assignments inside expressions, also through comprehensions. -/
def walrusNames : List Occurrence → List String
  | [] => []
  | o :: rest => o.walrusNames ++ walrusNames rest

end

/-- The names that are bound in a body, whatever it declares. -/
def assignedNames (os : List Occurrence) : List String :=
  (os.filterMap fun
    | .bind name => some name
    | .imported name => some name
    | .hint name => some name
    | _ => none) ++ walrusNames os

/-- The names declared `global`. -/
def globalNames (os : List Occurrence) : List String :=
  os.filterMap fun
    | .global name => some name
    | _ => none

/-- The names declared `nonlocal`. -/
def nonlocalNames (os : List Occurrence) : List String :=
  os.filterMap fun
    | .nonlocal name => some name
    | _ => none

/-- The names that belong to a body. -/
def ownNames (params : List String) (os : List Occurrence) : List String :=
  params ++ (assignedNames os).filter fun n =>
    !(globalNames os).contains n && !(nonlocalNames os).contains n

/-- A comprehension's own names are those of its clauses. -/
def clauseNames (os : List Occurrence) : List String :=
  os.filterMap fun
    | .bind name => some name
    | _ => none

end Codebook.Source
