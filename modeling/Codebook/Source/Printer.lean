import Codebook.Decimal.Shortest
import Codebook.Source.Basic
import Codebook.Text.Quoted

/-!
# Writing expressions

The text of an expression, with blanks in fixed places and no parentheses but those that its reading
needs.
-/

namespace Codebook.Source

open Text

/-- How tightly the parts of an expression are bound; a looser one in a tighter place needs
parentheses. -/
inductive Tightness
  | tuple | test | orTest | andTest | notTest | comparison | bitOr | bitXor | bitAnd | shift | sum
  | term | factor | power | await | atom
  deriving DecidableEq, Repr

namespace Tightness

/-- The place of a degree in the order. -/
def rank : Tightness → Nat
  | .tuple => 0 | .test => 1 | .orTest => 2 | .andTest => 3 | .notTest => 4 | .comparison => 5
  | .bitOr => 6 | .bitXor => 7 | .bitAnd => 8 | .shift => 9 | .sum => 10 | .term => 11
  | .factor => 12 | .power => 13 | .await => 14 | .atom => 15

end Tightness

/-- An operator between two operands with its degree. -/
def BinaryOp.text : BinaryOp → String × Tightness
  | .add => ("+", .sum)
  | .sub => ("-", .sum)
  | .mul => ("*", .term)
  | .matMul => ("@", .term)
  | .div => ("/", .term)
  | .mod => ("%", .term)
  | .floorDiv => ("//", .term)
  | .pow => ("**", .power)
  | .shiftLeft => ("<<", .shift)
  | .shiftRight => (">>", .shift)
  | .bitOr => ("|", .bitOr)
  | .bitXor => ("^", .bitXor)
  | .bitAnd => ("&", .bitAnd)

/-- An operator before one operand with its degree. -/
def UnaryOp.text : UnaryOp → String × Tightness
  | .invert => ("~", .factor)
  | .plus => ("+", .factor)
  | .minus => ("-", .factor)
  | .not => ("not ", .notTest)

/-- A comparison. -/
def CompareOp.text : CompareOp → String
  | .eq => "=="
  | .notEq => "!="
  | .lt => "<"
  | .le => "<="
  | .gt => ">"
  | .ge => ">="
  | .is => "is"
  | .isNot => "is not"
  | .isIn => "in"
  | .notIn => "not in"

/-- A number. What is too large for a double is written as such. -/
def Number.text : Number → String
  | .int n => toString n
  | .decimal d e => finite (Decimal.text (Decimal.ofScientific d e))
  | .imaginary d e => finite (Decimal.bareText (Decimal.ofScientific d e)) ++ "j"
where
  /-- The text of a number, or of one that has no double. -/
  finite (s : String) : String := if s == "inf" then "1e309" else s

/-- A constant. -/
def Constant.print : Constant → String
  | .none => "None"
  | .true => "True"
  | .false => "False"
  | .ellipsis => "..."
  | .number n => n.text
  | .text s marked => (if marked then "u" else "") ++ quoted s
  | .bytes b => quotedBytes b

/-- Parentheses where they are needed. -/
def parens (needed : Bool) (s : String) : String :=
  if needed then "(" ++ s ++ ")" else s

/-- The text in a formatted string. -/
def doubleBraces (s : String) : String :=
  String.ofList (s.toList.flatMap fun c => if c == '\x7b' || c == '\x7d' then [c, c] else [c])

/-- An expression with its conversion and format in a formatted string. -/
def replacement (inner : String) (conversion : Option Char) (spec : String) : String :=
  let first := if inner.startsWith "\x7b" then "\x7b " else "\x7b"
  let shown := match conversion with
    | some c => "!" ++ String.singleton c
    | none => ""
  first ++ inner ++ shown ++ spec ++ "\x7d"

/-- The expression is a whole number, before which a point needs a blank. -/
def isWhole : Expr → Bool
  | .constant (.number (.int _)) => true
  | _ => false

/-- Marks between the parameters of a `lambda`: a slash after those by position only, and a star
before those by name only, unless something else shows it. -/
def markParameters (ps : List (ParameterKind × String)) : List String :=
  let positionalOnly := ps.takeWhile (·.1 == .positionalOnly)
  let rest := ps.dropWhile (·.1 == .positionalOnly)
  let front := rest.takeWhile (·.1 == .positional)
  let back := rest.dropWhile (·.1 == .positional)
  positionalOnly.map (·.2) ++ (if positionalOnly.isEmpty then [] else ["/"]) ++ front.map (·.2) ++
    (if (back.head?.map (·.1)) == some .keywordOnly then ["*"] else []) ++ back.map (·.2)

/-- Stars before a parameter that takes several arguments. -/
def ParameterKind.stars : ParameterKind → String
  | .variadic => "*"
  | .keywords => "**"
  | _ => ""

mutual

/-- The text of an expression in a place of the given degree. -/
def printExpr (place : Tightness) : Expr → String
  | .name id => id
  | .constant c => c.print
  | .joined parts => "f" ++ quoted (printJoined parts)
  | .formatted value conversion spec =>
    "f" ++ quoted (replacement (printExpr .orTest value) conversion (printSpec spec))
  | .binary op l r =>
    let (s, t) := op.text
    let leftPlace := if op == .pow then tighter t else t
    let rightPlace := if op == .pow then t else tighter t
    parens (t.rank < place.rank)
      (printExpr leftPlace l ++ " " ++ s ++ " " ++ printExpr rightPlace r)
  | .unary op e =>
    let (s, t) := op.text
    parens (t.rank < place.rank) (s ++ printExpr t e)
  | .bool op es =>
    let (s, t) := match op with
      | .and => (" and ", Tightness.andTest)
      | .or => (" or ", Tightness.orTest)
    parens (t.rank < place.rank) (s.intercalate (printAll (tighter t) es))
  | .compare l rest =>
    parens (Tightness.comparison.rank < place.rank)
      (printExpr .bitOr l ++ String.join (printComparisons rest))
  | .conditional test yes no =>
    parens (Tightness.test.rank < place.rank)
      (printExpr .orTest yes ++ " if " ++ printExpr .orTest test ++ " else " ++ printExpr .test no)
  | .lambda params body =>
    let ps := markParameters (printParameters params)
    let byPosition := params.any fun p => p.kind == .positionalOnly || p.kind == .positional
    parens (Tightness.test.rank < place.rank)
      ("lambda" ++ (if byPosition then " " else "") ++ ", ".intercalate ps ++ ": " ++
        printExpr .test body)
  | .tuple [] => "()"
  | .tuple [e] => parens (Tightness.tuple.rank < place.rank) (printExpr .test e ++ ",")
  | .tuple es =>
    parens (Tightness.tuple.rank < place.rank) (", ".intercalate (printAll .test es))
  | .list es => "[" ++ ", ".intercalate (printAll .test es) ++ "]"
  | .set es => "\x7b" ++ ", ".intercalate (printAll .test es) ++ "\x7d"
  | .dict items => "\x7b" ++ ", ".intercalate (printItems items) ++ "\x7d"
  | .comprehension kind e cs =>
    let inner := printExpr .test e ++ String.join (printClauses cs)
    match kind with
    | .list => "[" ++ inner ++ "]"
    | .set => "\x7b" ++ inner ++ "\x7d"
    | .generator => "(" ++ inner ++ ")"
  | .dictComprehension k v cs =>
    "\x7b" ++ printExpr .test k ++ ": " ++ printExpr .test v ++ String.join (printClauses cs) ++
      "\x7d"
  | .call f [.comprehension .generator e cs] [] =>
    printExpr .atom f ++ "(" ++ printExpr .test e ++ String.join (printClauses cs) ++ ")"
  | .call f args keywords =>
    printExpr .atom f ++ "(" ++ ", ".intercalate (printAll .test args ++ printKeywords keywords) ++
      ")"
  | .attribute e name => printExpr .atom e ++ (if isWhole e then " ." else ".") ++ name
  | .subscript e i => printExpr .atom e ++ "[" ++ printExpr .tuple i ++ "]"
  | .slice a b c =>
    printOptional .test a ++ ":" ++ printOptional .test b ++
      match c with
      | some c => ":" ++ printExpr .test c
      | none => ""
  | .starred e => "*" ++ printExpr .bitOr e
  | .walrus name e =>
    parens (Tightness.tuple.rank < place.rank) (name ++ " := " ++ printExpr .atom e)
  | .await e => parens (Tightness.await.rank < place.rank) ("await " ++ printExpr .atom e)
  | .yield none => "(yield)"
  | .yield (some e) => "(yield " ++ printExpr .test e ++ ")"
  | .yieldFrom e => "(yield from " ++ printExpr .test e ++ ")"
where
  /-- The next tighter degree. -/
  tighter : Tightness → Tightness
    | .tuple => .test | .test => .orTest | .orTest => .andTest | .andTest => .notTest
    | .notTest => .comparison | .comparison => .bitOr | .bitOr => .bitXor | .bitXor => .bitAnd
    | .bitAnd => .shift | .shift => .sum | .sum => .term | .term => .factor | .factor => .power
    | .power => .await | .await => .atom | .atom => .atom

/-- The texts of expressions. -/
def printAll (place : Tightness) : List Expr → List String
  | [] => []
  | e :: es => printExpr place e :: printAll place es

/-- The text of an expression that may be missing. -/
def printOptional (place : Tightness) : Option Expr → String
  | some e => printExpr place e
  | none => ""

/-- Comparisons after the first operand. -/
def printComparisons : List (CompareOp × Expr) → List String
  | [] => []
  | (o, e) :: rest => (" " ++ o.text ++ " " ++ printExpr .bitOr e) :: printComparisons rest

/-- The items of a dictionary. -/
def printItems : List (Option Expr × Expr) → List String
  | [] => []
  | (some k, v) :: rest => (printExpr .test k ++ ": " ++ printExpr .test v) :: printItems rest
  | (none, v) :: rest => ("**" ++ printExpr .bitOr v) :: printItems rest

/-- Arguments by name. -/
def printKeywords : List (Option String × Expr) → List String
  | [] => []
  | (some k, v) :: rest => (k ++ "=" ++ printExpr .test v) :: printKeywords rest
  | (none, v) :: rest => ("**" ++ printExpr .test v) :: printKeywords rest

/-- The clauses of a comprehension. -/
def printClauses : List (Clause Expr) → List String
  | [] => []
  | ⟨isAsync, target, iter, conditions⟩ :: rest =>
    ((if isAsync then " async for " else " for ") ++ printExpr .tuple target ++ " in " ++
      printExpr .orTest iter ++ String.join (printConditions conditions)) :: printClauses rest

/-- The conditions of a clause. -/
def printConditions : List Expr → List String
  | [] => []
  | e :: es => (" if " ++ printExpr .orTest e) :: printConditions es

/-- The parameters of a `lambda` one by one. -/
def printParameters : List (Parameter Expr) → List (ParameterKind × String)
  | [] => []
  | ⟨name, kind, _, some d⟩ :: rest =>
    (kind, kind.stars ++ name ++ "=" ++ printExpr .test d) :: printParameters rest
  | ⟨name, kind, _, none⟩ :: rest => (kind, kind.stars ++ name) :: printParameters rest

/-- The parts of a formatted string: texts and expressions with their formats. -/
def printJoined : List Expr → String
  | [] => ""
  | .constant (.text s _) :: rest => doubleBraces s ++ printJoined rest
  | .formatted value conversion spec :: rest =>
    replacement (printExpr .orTest value) conversion (printSpec spec) ++ printJoined rest
  | _ :: rest => printJoined rest

/-- The format of an expression in a formatted string. -/
def printSpec : Option Expr → String
  | some (.joined parts) => ":" ++ printJoined parts
  | _ => ""

end

/-- The text of an expression by itself. -/
def Expr.print (e : Expr) : String :=
  printExpr .test e

end Codebook.Source
