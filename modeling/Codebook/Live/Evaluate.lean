import Codebook.Live.Call
import Codebook.Live.Variable
import Codebook.Source.Suspend

/-!
# Expressions

`evaluate` gives the value of an expression in a running body. It follows the expression; only calls
leave it, and those go to a `Machine`.
-/

namespace Codebook.Live

open Source

/-! ## Small steps -/

/-- A constant's value. -/
def constantValue : Constant → Value
  | .none => .none
  | .true => .bool true
  | .false => .bool false
  | .ellipsis => .ellipsis
  | .number (.int n) => .int n
  | .number (.decimal d e) => .float (Decimal.ofScientific d e)
  | .number (.imaginary d e) => .complex ⟨0, Decimal.ofScientific d e⟩
  | .text s _ => .text s
  | .bytes b => .bytes b

/-- What a formatted string shows of a value. -/
def formatValue (m : Machine) (v : Value) (conversion : Option Char) (spec : String) :
    Run String := do
  if spec != "" then Run.beyond
  match conversion with
  | some 'r' => reprOf m v
  | some 'a' => Run.beyond
  | _ => textOf m v

/-- The items of a keyword argument that is a dictionary. -/
def spread (v : Value) : Run Table :=
  match v with
  | .dict items => items.mapM fun
    | (.text k, w) => pure (k, w)
    | _ => Run.fail (.wrongType "keywords must be strings")
  | v => do
    let name := (← get).typeName v
    Run.fail (.wrongType ("argument after ** must be a mapping, not " ++ name))

/-- The names that belong to a body, as they are kept. -/
def keptNames (className : Option String) (names : List String) : List String :=
  names.map (mangle className)

/-- New variables for a comprehension. -/
def comprehensionFrame (frame : Nat) (label : String) (names : List String) : Run Nat := do
  let s ← get
  let f := s.frame frame
  Run.newFrame
    { kind := .call, vars := [], own := keptNames f.className names, declared := f.declared,
      outer := s.around frame, globals := if f.kind == .module then frame else f.globals,
      path := f.path ++ label ++ ".<locals>.", className := f.className,
      keepsHints := f.keepsHints }

/-- The targets that a comprehension binds. -/
def clauseTargets (cs : List (Clause Expr)) : List String :=
  clauseNames (cs.flatMap fun c => c.target.targets)

/-- What a comprehension is called in full names. -/
def comprehensionLabel : ComprehensionKind → String
  | .list => "<listcomp>"
  | .set => "<setcomp>"
  | .generator => "<genexpr>"

/-- Takes a value apart into as many as there are targets. -/
def unpack (count : Nat) (v : Value) : Run (List Value) := do
  let items ← match v with
    | .none => cannot v
    | .int _ => cannot v
    | .bool _ => cannot v
    | .float _ => cannot v
    | .function _ => cannot v
    | .cls _ => cannot v
    | v => iterate v
  if items.length < count then
    Run.fail (.wrongValue s!"not enough values to unpack (expected {count}, got {items.length})")
  else if count < items.length then
    Run.fail (.wrongValue s!"too many values to unpack (expected {count})")
  else return items
where
  /-- The value has no items. -/
  cannot (v : Value) : Run (List Value) := do
    let name := (← get).typeName v
    Run.fail (.wrongType ("cannot unpack non-iterable " ++ name ++ " object"))

/-- The parts of a value for the given targets; a starred one takes what is left. -/
def partsFor (targets : List Expr) (v : Value) : Run (List Value) := do
  let before := targets.takeWhile fun
    | .starred _ => false
    | _ => true
  if before.length == targets.length then unpack targets.length v
  else
    let items ← iterate v
    let after := targets.length - before.length - 1
    if items.length < before.length + after then
      Run.fail (.wrongValue ("not enough values to unpack (expected at least " ++
        toString (before.length + after) ++ ", got " ++ toString items.length ++ ")"))
    else
      let middle := (items.drop before.length).take (items.length - before.length - after)
      return items.take before.length ++ [.list middle] ++ items.drop (items.length - after)

/-- Every key and value of a dictionary, checked. -/
def dictOf (items : List (Value × Value)) : Run Value := do
  items.forM fun i => needKey i.1
  return .dict (items.foldl (fun d i => putItem i.1 i.2 d) [])

mutual

/-- The expression is known before the run: a constant, or one made of constants by operators. -/
def isConstant : Expr → Bool
  | .constant _ => true
  | .unary _ e => isConstant e
  | .binary _ l r => isConstant l && isConstant r
  | .tuple es => areConstant es
  | .subscript e i => isConstant e && isConstant i
  | _ => false

/-- All expressions are known before the run. -/
def areConstant : List Expr → Bool
  | [] => true
  | e :: es => isConstant e && areConstant es

end

/-- A set of values in the given order. -/
def setOf (order : List Value → List Value) (items : List Value) : Run Value := do
  items.forM needKey
  return .set (order items)

/-- The order of a set written with its items. -/
def displayOrder (es : List Expr) : List Value → List Value :=
  if 2 < es.length && areConstant es then constantOrder else setOrder

/-- The module that a function defined in a body says it is from. -/
def homeOf (s : Store) (frame : Nat) : Value :=
  let f := s.frame frame
  let globals := if f.kind == .module then frame else f.globals
  ((s.frame globals).vars.get? "__name__").getD .none

/-- Keeps a function that is defined in a body. -/
def defineFunction (frame : Nat) (name : String) (params : List (Parameter Value)) (hints : Table)
    (doc : Value) (body : Body) (suspends : Option String) : Run Value := do
  let s ← get
  let f := s.frame frame
  let id ← Run.newFunction
    { name, path := s.pathOf frame name, home := homeOf s frame, doc,
      params := params.map fun p => { p with name := mangle f.className p.name },
      hints, vars := [], body, suspends, outer := s.around frame,
      globals := if f.kind == .module then frame else f.globals, className := f.className }
  return .function id

/-! ## Expressions -/

mutual

/-- The value of an expression. -/
def evaluate (m : Machine) (frame : Nat) : Expr → Run Value
  | .name id => lookup frame id
  | .constant c => return constantValue c
  | .joined parts => do return .text (← evaluateJoined m frame parts)
  | .formatted value conversion spec => do
    let v ← evaluate m frame value
    let format ← evaluateSpec m frame spec
    return .text (← formatValue m v conversion format)
  | .binary op l r => do
    let a ← evaluate m frame l
    let b ← evaluate m frame r
    binary op false a b
  | .unary op e => do unary op (← evaluate m frame e)
  | .bool op es => evaluateBool m frame op es
  | .compare l rest => do
    let a ← evaluate m frame l
    evaluateCompare m frame a rest
  | .conditional t a b => do
    let c ← evaluate m frame t
    if c.isTrue then evaluate m frame a else evaluate m frame b
  | .lambda params body => do
    let ps ← evaluateDefaults m frame params
    let suspends := if body.suspends .yields then some "generator" else none
    defineFunction frame "<lambda>" ps [] .none (.expr body) suspends
  | .tuple es => do return .tuple (← evaluateItems m frame es)
  | .list es => do return .list (← evaluateItems m frame es)
  | .set es => do setOf (displayOrder es) (← evaluateItems m frame es)
  | .dict items => do dictOf (← evaluatePairs m frame items)
  | .comprehension .generator _ (⟨isAsync, _, iter, _⟩ :: _) => do
    let v ← evaluate m frame iter
    if isAsync then
      let name := (← get).typeName v
      Run.fail (.wrongType ("'async for' requires an object with __aiter__ method, got " ++ name))
    let _ ← iterate v
    return .object (← Run.newObject ⟨.known "generator", [], []⟩)
  | .comprehension kind e cs => do
    let inner ← comprehensionFrame frame (comprehensionLabel kind) (clauseTargets cs)
    let pairs ← evaluateClauses m frame inner (do return (← evaluate m inner e, .none)) cs
    let items := pairs.map (·.1)
    match kind with
    | .list => return .list items
    | .set => setOf setOrder items
    | .generator => Run.beyond
  | .dictComprehension k v cs => do
    let inner ← comprehensionFrame frame "<dictcomp>" (clauseTargets cs)
    let items ← evaluateClauses m frame inner
      (do
        let key ← evaluate m inner k
        let value ← evaluate m inner v
        return (key, value)) cs
    dictOf items
  | .call f args keywords => do
    let g ← evaluate m frame f
    let as ← evaluateItems m frame args
    let ks ← evaluateKeywords m frame keywords
    m.call g as ks
  | .attribute e name => do
    let v ← evaluate m frame e
    let className := ((← get).frame frame).className
    getAttribute m v (mangle className name)
  | .subscript e (.slice a b c) => do
    let v ← evaluate m frame e
    let lower ← evaluateOption m frame a
    let upper ← evaluateOption m frame b
    let step ← evaluateOption m frame c
    slice v lower upper step
  | .subscript e i => do
    let v ← evaluate m frame e
    let index ← evaluate m frame i
    subscript v index
  | .slice _ _ _ => Run.beyond
  | .starred _ => Run.beyond
  | .walrus name e => do
    let v ← evaluate m frame e
    bindName frame name v
    return v
  | .await _ => Run.beyond
  | .yield _ => Run.beyond
  | .yieldFrom _ => Run.beyond

/-- The value of an expression, or nothing where there is none. -/
def evaluateOption (m : Machine) (frame : Nat) : Option Expr → Run Value
  | some e => evaluate m frame e
  | none => return .none

/-- The format in a formatted string. -/
def evaluateSpec (m : Machine) (frame : Nat) : Option Expr → Run String
  | some (.joined parts) => evaluateJoined m frame parts
  | _ => return ""

/-- The text of a formatted string. -/
def evaluateJoined (m : Machine) (frame : Nat) : List Expr → Run String
  | [] => return ""
  | .constant (.text s _) :: rest => do return s ++ (← evaluateJoined m frame rest)
  | .formatted value conversion spec :: rest => do
    let v ← evaluate m frame value
    let format ← evaluateSpec m frame spec
    let t ← formatValue m v conversion format
    return t ++ (← evaluateJoined m frame rest)
  | _ :: rest => evaluateJoined m frame rest

/-- The values of items, of which some may be spread out. -/
def evaluateItems (m : Machine) (frame : Nat) : List Expr → Run (List Value)
  | [] => return []
  | .starred e :: es => do
    let v ← evaluate m frame e
    let items ← iterate v
    return items ++ (← evaluateItems m frame es)
  | e :: es => do
    let v ← evaluate m frame e
    return v :: (← evaluateItems m frame es)

/-- The first value that decides, or the last one. -/
def evaluateBool (m : Machine) (frame : Nat) (op : BoolOp) : List Expr → Run Value
  | [] => return .none
  | [e] => evaluate m frame e
  | e :: es => do
    let v ← evaluate m frame e
    if v.isTrue == (op == .or) then return v else evaluateBool m frame op es

/-- Comparisons one after the other, until one does not hold. -/
def evaluateCompare (m : Machine) (frame : Nat) (a : Value) : List (CompareOp × Expr) → Run Value
  | [] => return .bool true
  | (op, e) :: rest => do
    let b ← evaluate m frame e
    if ← compare op a b then evaluateCompare m frame b rest else return .bool false

/-- The items of a dictionary. -/
def evaluatePairs (m : Machine) (frame : Nat) :
    List (Option Expr × Expr) → Run (List (Value × Value))
  | [] => return []
  | (some k, v) :: rest => do
    let key ← evaluate m frame k
    let value ← evaluate m frame v
    return (key, value) :: (← evaluatePairs m frame rest)
  | (none, v) :: rest => do
    match ← evaluate m frame v with
    | .dict items => return items ++ (← evaluatePairs m frame rest)
    | w => do
      let name := (← get).typeName w
      Run.fail (.wrongType ("'" ++ name ++ "' object is not a mapping"))

/-- Arguments by name. -/
def evaluateKeywords (m : Machine) (frame : Nat) : List (Option String × Expr) → Run Table
  | [] => return []
  | (some k, v) :: rest => do
    let value ← evaluate m frame v
    return (k, value) :: (← evaluateKeywords m frame rest)
  | (none, v) :: rest => do
    let more ← spread (← evaluate m frame v)
    return more ++ (← evaluateKeywords m frame rest)

/-- Parameters with the values of their defaults. -/
def evaluateDefaults (m : Machine) (frame : Nat) :
    List (Parameter Expr) → Run (List (Parameter Value))
  | [] => return []
  | ⟨name, kind, _, some d⟩ :: rest => do
    let v ← evaluate m frame d
    return ⟨name, kind, none, some v⟩ :: (← evaluateDefaults m frame rest)
  | ⟨name, kind, _, none⟩ :: rest =>
    return ⟨name, kind, none, none⟩ :: (← evaluateDefaults m frame rest)

/-- Runs over the items of each clause and gathers what `act` gives for each combination that the
conditions allow. What the first clause runs over is evaluated outside, in `outer`. -/
def evaluateClauses (m : Machine) (outer frame : Nat) (act : Run (Value × Value)) :
    List (Clause Expr) → Run (List (Value × Value))
  | [] => return [← act]
  | ⟨isAsync, target, iter, conditions⟩ :: rest => do
    if isAsync then Run.beyond
    let items ← iterate (← evaluate m outer iter)
    let parts ← items.mapM fun v => do
      assign m frame target v
      if ← evaluateAll m frame conditions then evaluateClauses m frame frame act rest else return []
    return parts.flatten

/-- All conditions hold. -/
def evaluateAll (m : Machine) (frame : Nat) : List Expr → Run Bool
  | [] => return true
  | e :: es => do
    let v ← evaluate m frame e
    if v.isTrue then evaluateAll m frame es else return false

/-- Gives a target a value. -/
def assign (m : Machine) (frame : Nat) : Expr → Value → Run Unit
  | .name id, v => bindName frame id v
  | .tuple es, v => do assignEach m frame es (← partsFor es v)
  | .list es, v => do assignEach m frame es (← partsFor es v)
  | .attribute e name, v => do
    let owner ← evaluate m frame e
    let className := ((← get).frame frame).className
    setAttribute owner (mangle className name) v
  | _, _ => Run.beyond

/-- Gives each target its value. -/
def assignEach (m : Machine) (frame : Nat) : List Expr → List Value → Run Unit
  | .starred e :: es, v :: vs => do
    assign m frame e v
    assignEach m frame es vs
  | e :: es, v :: vs => do
    assign m frame e v
    assignEach m frame es vs
  | _, _ => return

end

end Codebook.Live
