/-!
# The parts of a source file

Expressions, statements and definitions of the Python language, version 3.11, as their grammar gives
them. Parentheses and comments leave no trace.
-/

namespace Codebook.Source

/-! ## Constants -/

/-- A number as written: a whole number, a decimal fraction `digits · 10 ^ exponent`, or such a
fraction as the imaginary part. -/
inductive Number
  | int (n : Nat)
  | decimal (digits : Nat) (exponent : Int)
  | imaginary (digits : Nat) (exponent : Int)
  deriving DecidableEq, Repr

/-- A constant. A text is marked if it is written with a `u` before it. -/
inductive Constant
  | none
  | true
  | false
  | ellipsis
  | number (n : Number)
  | text (s : String) (marked : Bool := false)
  | bytes (b : List UInt8)
  deriving DecidableEq, Repr

/-! ## Operators -/

/-- Operators between two operands. -/
inductive BinaryOp
  | add | sub | mul | matMul | div | mod | pow | shiftLeft | shiftRight | bitOr | bitXor | bitAnd
  | floorDiv
  deriving DecidableEq, Repr

/-- Operators before one operand. -/
inductive UnaryOp
  | invert | not | plus | minus
  deriving DecidableEq, Repr

/-- Operators that may leave operands out. -/
inductive BoolOp
  | and | or
  deriving DecidableEq, Repr

/-- Comparisons. -/
inductive CompareOp
  | eq | notEq | lt | le | gt | ge | is | isNot | isIn | notIn
  deriving DecidableEq, Repr

/-! ## Expressions -/

/-- How arguments reach a parameter. -/
inductive ParameterKind
  | positionalOnly
  | positional
  | variadic
  | keywordOnly
  | keywords
  deriving DecidableEq, Repr

/-- A parameter with what is written beside its name. -/
structure Parameter (ε : Type) where
  name : String
  kind : ParameterKind
  hint : Option ε
  default : Option ε
  deriving Repr

/-- One `for` of a comprehension with its conditions. -/
structure Clause (ε : Type) where
  isAsync : Bool
  target : ε
  iter : ε
  conditions : List ε
  deriving Repr

/-- What a comprehension with one element makes. -/
inductive ComprehensionKind
  | list | set | generator
  deriving DecidableEq, Repr

/-- An expression. -/
inductive Expr
  | name (id : String)
  | constant (c : Constant)
  | joined (parts : List Expr)
  | formatted (value : Expr) (conversion : Option Char) (spec : Option Expr)
  | binary (op : BinaryOp) (left right : Expr)
  | unary (op : UnaryOp) (operand : Expr)
  | bool (op : BoolOp) (values : List Expr)
  | compare (left : Expr) (rest : List (CompareOp × Expr))
  | conditional (test yes no : Expr)
  | lambda (params : List (Parameter Expr)) (body : Expr)
  | tuple (items : List Expr)
  | list (items : List Expr)
  | set (items : List Expr)
  | dict (items : List (Option Expr × Expr))
  | comprehension (kind : ComprehensionKind) (element : Expr) (clauses : List (Clause Expr))
  | dictComprehension (key value : Expr) (clauses : List (Clause Expr))
  | call (function : Expr) (args : List Expr) (keywords : List (Option String × Expr))
  | attribute (value : Expr) (name : String)
  | subscript (value index : Expr)
  | slice (lower upper step : Option Expr)
  | starred (value : Expr)
  | walrus (name : String) (value : Expr)
  | await (value : Expr)
  | yield (value : Option Expr)
  | yieldFrom (value : Expr)
  deriving Repr, Inhabited

/-! ## Patterns -/

/-- A pattern of a `case`. -/
inductive Pattern
  | wildcard
  | capture (name : String)
  | value (e : Expr)
  | sequence (items : List Pattern)
  | star (name : Option String)
  | mapping (keys : List (Expr × Pattern)) (rest : Option String)
  | shape (of : Expr) (positional : List Pattern) (keywords : List (String × Pattern))
  | either (options : List Pattern)
  | named (pattern : Pattern) (name : String)
  deriving Repr, Inhabited

/-! ## Statements -/

/-- A name brought in by an import, with the name it gets. -/
structure Alias where
  name : String
  asName : Option String
  deriving DecidableEq, Repr

/-- A function definition with statements of type `σ` in its body. -/
structure FunctionDef (σ : Type) where
  isAsync : Bool
  name : String
  params : List (Parameter Expr)
  returns : Option Expr
  decorators : List Expr
  body : List σ
  deriving Repr

/-- A class definition with statements of type `σ` in its body. -/
structure ClassDef (σ : Type) where
  name : String
  bases : List Expr
  keywords : List (Option String × Expr)
  decorators : List Expr
  body : List σ
  deriving Repr

/-- One `except` of a `try`. -/
structure Handler (σ : Type) where
  type : Option Expr
  name : Option String
  body : List σ
  deriving Repr

/-- One `case` of a `match`. -/
structure Case (σ : Type) where
  pattern : Pattern
  guard : Option Expr
  body : List σ
  deriving Repr

/-- A statement. -/
inductive Stmt
  | expr (e : Expr)
  | assign (targets : List Expr) (value : Expr)
  | augment (target : Expr) (op : BinaryOp) (value : Expr)
  | annotate (target hint : Expr) (value : Option Expr) (simple : Bool)
  | ret (value : Option Expr)
  | delete (targets : List Expr)
  | pass
  | breakLoop
  | continueLoop
  | raise (error cause : Option Expr)
  | global (names : List String)
  | nonlocal (names : List String)
  | assert (test : Expr) (message : Option Expr)
  | importNames (names : List Alias)
  | importFrom (level : Nat) (module : Option String) (names : List Alias)
  | cond (test : Expr) (body orelse : List Stmt)
  | whileLoop (test : Expr) (body orelse : List Stmt)
  | forLoop (isAsync : Bool) (target iter : Expr) (body orelse : List Stmt)
  | withItems (isAsync : Bool) (items : List (Expr × Option Expr)) (body : List Stmt)
  | tryBlock (body : List Stmt) (star : Bool) (handlers : List (Handler Stmt))
      (orelse final : List Stmt)
  | choose (subject : Expr) (cases : List (Case Stmt))
  | functionDef (f : FunctionDef Stmt)
  | classDef (c : ClassDef Stmt)
  deriving Repr, Inhabited

/-- A function definition. -/
abbrev Function := FunctionDef Stmt

/-- A class definition. -/
abbrev Class := ClassDef Stmt

end Codebook.Source
