import Codebook.Live.Import
import Codebook.Live.Inherit
import Codebook.Source.Module
import Codebook.Source.Writable

/-!
# Statements

`execute` runs a statement in a running body, and `machine` calls values: the body of a function
runs with the machine of one level less, so that calls inside calls come to an end.
-/

namespace Codebook.Live

open Source

/-! ## How statements end -/

/-- What a statement does to those after it. -/
inductive Flow
  | next
  | returned (v : Value)
  | broke
  | continued
  deriving Repr

/-- Runs a loop's body for each item. `none` says that the loop came to its end. -/
def runLoop (body : Value → Run Flow) : List Value → Run (Option Flow)
  | [] => return none
  | v :: vs => do
    match ← body v with
    | .next => runLoop body vs
    | .continued => runLoop body vs
    | f => return some f

/-- A run that ends early by an exception gives it as a value. -/
def caught (r : Run Flow) : Run (Except Value Flow) :=
  tryCatch (do return .ok (← r)) fun
    | .raised e => return .error e
    | .beyond => Run.beyond

/-- Does something at the end of a run, however it ends. -/
def finallyDo (r : Run Flow) (final : Run Flow) : Run Flow := do
  let outcome ← caught r
  match ← final with
  | .next =>
    match outcome with
    | .ok f => return f
    | .error e => throw (.raised e)
  | f => return f

/-- An exception is handled while something runs. -/
def whileHandling (e : Value) (r : Run Flow) : Run Flow := do
  let before := (← get).handling
  modify fun s => { s with handling := e :: before }
  let outcome ← caught r
  modify fun s => { s with handling := before }
  match outcome with
  | .ok f => return f
  | .error e => throw (.raised e)

/-! ## Exceptions -/

/-- The value to be raised. -/
def exceptionOf (m : Machine) (v : Value) : Run Value := do
  let s ← get
  match v with
  | .cls c =>
    if s.isException c then
      match ← m.call v [] [] with
      | .object id => return .object id
      | _ => wrong
    else wrong
  | .object id => if s.isException (s.object id).cls then return v else wrong
  | _ => wrong
where
  /-- The value is no exception. -/
  wrong : Run Value := Run.fail (.wrongType "exceptions must derive from BaseException")

/-- Checks what an exception is said to come from: an exception, a class of them, or nothing. -/
def checkCause (m : Machine) (v : Value) : Run Unit := do
  let s ← get
  match v with
  | .none => return
  | .cls c =>
    unless s.isException c do wrong
    let _ ← exceptionOf m v
  | .object id => unless s.isException (s.object id).cls do wrong
  | _ => wrong
where
  /-- An exception cannot come from the value. -/
  wrong : Run Unit := Run.fail (.wrongType "exception causes must derive from BaseException")

/-- A handler for the given classes takes an exception. -/
def takes (e classes : Value) : Run Bool := do
  let s ← get
  let cs := match classes with
    | .tuple items => items
    | v => [v]
  let refs ← cs.mapM fun
    | .cls c => if s.isException c then pure c else wrong
    | _ => wrong
  return refs.any (s.isInstance e)
where
  /-- The handler names something else. -/
  wrong : Run ClassRef :=
    Run.fail (.wrongType
      "catching classes that do not inherit from BaseException is not allowed")

/-- A handler takes an exception; one without classes takes every one. -/
def handles (m : Machine) (frame : Nat) (e : Value) : Option Expr → Run Bool
  | none => return true
  | some c => do takes e (← evaluate m frame c)

/-- Raises the exception that is being handled. -/
def reraise : Run Flow := do
  match (← get).handling with
  | e :: _ => throw (.raised e)
  | [] => Run.fail .nothingToRaise

/-! ## Classes -/

/-- The variables that a class's body starts with. -/
def classFrame (frame : Nat) (name : String) (body : List Stmt) : Run Nat := do
  let s ← get
  let f := s.frame frame
  let path := s.pathOf frame (mangle f.className name)
  let os := occurrencesOf f.keepsHints body
  let globals := if f.kind == .module then frame else f.globals
  let home ← lookupGlobal globals "__name__"
  let doc : Table := match body with
    | .expr (.constant (.text t _)) :: _ => [("__doc__", .text t)]
    | _ => []
  let hints : Table := if bodyHints body then [("__annotations__", .dict [])] else []
  Run.newFrame
    { kind := .classBody,
      vars := [("__module__", home), ("__qualname__", .text path)] ++ hints ++ doc,
      own := keptNames (some name) (ownNames [] os),
      declared := keptNames (some name) (globalNames os),
      outer := s.around frame, globals, path := path ++ ".", className := some name,
      keepsHints := f.keepsHints }

/-! ## Functions -/

/-- The docstring of a function. -/
def docOf (body : List Stmt) : Value :=
  match body with
  | .expr (.constant (.text t _)) :: _ => .text t
  | _ => .none

/-- A hint's value, or its text where hints are kept as text. -/
def hintValue (m : Machine) (frame : Nat) (e : Expr) : Run Value := do
  if ((← get).frame frame).keepsHints then return .text e.print
  else
    match e with
    | .starred e => do return (← unpack 1 (← evaluate m frame e)).headD .none
    | e => evaluate m frame e

/-- The hints of a function in the order in which they are looked at: first those of parameters that
take arguments both ways, then the other parameters, and the result at last. -/
def hintTable (m : Machine) (frame : Nat) (params : List (Parameter Expr)) (returns : Option Expr) :
    Run Table := do
  let className := ((← get).frame frame).className
  let ordered := params.filter (·.kind == .positional) ++
    params.filter (·.kind == .positionalOnly) ++ params.filter (·.kind == .variadic) ++
    params.filter (·.kind == .keywordOnly) ++ params.filter (·.kind == .keywords)
  let hints ← (ordered.filterMap fun p => p.hint.map (mangle className p.name, ·)).mapM
    fun (name, e) => do return (name, ← hintValue m frame e)
  match returns with
  | none => return hints
  | some e => return hints ++ [("return", ← hintValue m frame e)]

/-- The variables that a call starts with. -/
def callFrame (f : FunctionObject) (vars : Table) (keepsHints : Bool) : Run Nat :=
  let os := match f.body with
    | .expr e => e.occurrences
    | .block b => occurrencesOf keepsHints b
  Run.newFrame
    { kind := .call, vars,
      own := f.params.map (·.name) ++ keptNames f.className (ownNames [] os),
      declared := keptNames f.className (globalNames os), outer := f.outer, globals := f.globals,
      path := f.path ++ ".<locals>.", className := f.className, keepsHints }

/-- Applies decorators, the nearest first. -/
def decorate (m : Machine) (decorators : List Value) (v : Value) : Run Value :=
  decorators.foldrM (fun d v => m.call d [v] []) v

/-- Keeps a hint among the variables of a module or class. One that has lost its dictionary of hints
takes the one that is found under its name. -/
def keepHint (frame : Nat) (name : String) (v : Value) : Run Unit := do
  let f := (← get).frame frame
  let owner := if f.kind == .module || (f.vars.get? "__annotations__").isSome then frame
    else f.globals
  match ← lookup frame "__annotations__" with
  | .dict items =>
    Run.setVar owner "__annotations__" (.dict (putItem (.text (mangle f.className name)) v items))
  | .object _ => Run.beyond
  | w => do
    let type := (← get).typeName w
    Run.fail (.wrongType ("'" ++ type ++ "' object does not support item assignment"))

/-- What stands before the hint of a variable that gets no value. -/
def evaluateOwner (m : Machine) (frame : Nat) : Expr → Run Unit
  | .attribute e _ => do
    let _ ← evaluate m frame e
  | .subscript e (.slice a b c) => do
    let _ ← evaluate m frame e
    let _ ← evaluateOption m frame a
    let _ ← evaluateOption m frame b
    let _ ← evaluateOption m frame c
  | .subscript e i => do
    let _ ← evaluate m frame e
    let _ ← evaluate m frame i
  | _ => return

/-! ## Statements -/

mutual

/-- Runs a statement. -/
def execute (m : Machine) (frame : Nat) : Stmt → Run Flow
  | .expr e => do
    let _ ← evaluate m frame e
    return .next
  | .assign targets value => do
    let v ← evaluate m frame value
    targets.forM fun t => assign m frame t v
    return .next
  | .augment target op value => do
    let a ← evaluate m frame target
    let b ← evaluate m frame value
    assign m frame target (← binary op true a b)
    return .next
  | .annotate target hint value simple => do
    match value with
    | some e => assign m frame target (← evaluate m frame e)
    | none => evaluateOwner m frame target
    let f := (← get).frame frame
    if f.kind != .call then
      match simple, target with
      | true, .name id => keepHint frame id (← hintValue m frame hint)
      | _, _ => unless f.keepsHints do let _ ← evaluate m frame hint
    return .next
  | .ret value => do return .returned (← evaluateOption m frame value)
  | .delete targets => do
    targets.forM fun
      | .name id => unbindName frame id
      | .attribute e name => do
        let v ← evaluate m frame e
        deleteAttribute v (mangle ((← get).frame frame).className name)
      | _ => Run.beyond
    return .next
  | .pass => return .next
  | .breakLoop => return .broke
  | .continueLoop => return .continued
  | .raise none _ => reraise
  | .raise (some e) cause => do
    let v ← evaluate m frame e
    let c ← evaluateOption m frame cause
    let raised ← exceptionOf m v
    checkCause m c
    throw (.raised raised)
  | .global _ => return .next
  | .nonlocal _ => return .next
  | .assert t message => do
    let v ← evaluate m frame t
    if v.isTrue then return .next
    else
      match message with
      | some e => Run.raiseWith "AssertionError" [← evaluate m frame e]
      | none => Run.raiseWith "AssertionError" []
  | .importNames names => do
    importNames frame names
    return .next
  | .importFrom level module names => do
    importFrom frame level module names
    return .next
  | .cond t body orelse => do
    let v ← evaluate m frame t
    if v.isTrue then executeAll m frame body else executeAll m frame orelse
  | .whileLoop t _ orelse => do
    let v ← evaluate m frame t
    if v.isTrue then Run.beyond else executeAll m frame orelse
  | .forLoop _ target iter body orelse => do
    let items ← iterate (← evaluate m frame iter)
    let outcome ← runLoop (fun v => do
      assign m frame target v
      executeAll m frame body) items
    match outcome with
    | none => executeAll m frame orelse
    | some .broke => return .next
    | some f => return f
  | .withItems _ _ _ => Run.beyond
  | .tryBlock body star handlers orelse final =>
    if star then Run.beyond
    else
      finallyDo
        (do
          match ← caught (executeAll m frame body) with
          | .ok .next => executeAll m frame orelse
          | .ok f => return f
          | .error e => executeHandlers m frame e handlers)
        (executeAll m frame final)
  | .choose _ _ => Run.beyond
  | .functionDef ⟨isAsync, name, params, returns, decorators, body⟩ => do
    let ds ← evaluateItems m frame decorators
    let ps ← evaluateDefaults m frame params
    let hints ← hintTable m frame params returns
    let f ← defineFunction frame name ps hints (docOf body) (.block body) (suspension? isAsync body)
    bindName frame name (← decorate m ds f)
    return .next
  | .classDef ⟨name, bases, keywords, decorators, body⟩ => do
    let ds ← evaluateItems m frame decorators
    let bs ← evaluateItems m frame bases
    let ks ← evaluateKeywords m frame keywords
    let entries := (← bs.mapM (baseEntries bs)).flatten
    let given := ks.get? "metaclass"
    let maker ← match given with
      | some (.cls c) => do pure (.cls (← metaclassOf c entries))
      | some v => pure v
      | none => do
        let first := (entries.head?.map (← get).classOf).getD (.known "type")
        pure (.cls (← metaclassOf first entries))
    let inner ← classFrame frame name body
    let _ ← executeAll m inner body
    let c ← makeBy m maker name entries ((← get).frame inner).vars (ks.erase "metaclass")
    bindName frame name (← decorate m ds c)
    return .next

/-- Runs statements one after the other. -/
def executeAll (m : Machine) (frame : Nat) : List Stmt → Run Flow
  | [] => return .next
  | s :: ss => do
    match ← execute m frame s with
    | .next => executeAll m frame ss
    | f => return f

/-- Runs the first handler that takes an exception. -/
def executeHandlers (m : Machine) (frame : Nat) (e : Value) : List (Handler Stmt) → Run Flow
  | [] => throw (.raised e)
  | ⟨type, name, body⟩ :: rest => do
    if ← handles m frame e type then
      match name with
      | none => whileHandling e (executeAll m frame body)
      | some n => do
        bindName frame n e
        finallyDo (whileHandling e (executeAll m frame body)) (do
          releaseName frame n
          return .next)
    else executeHandlers m frame e rest

end

/-! ## Calls -/

/-- Runs a function with the variables that its parameters start with. -/
def runFunction (m : Machine) (id : Nat) (vars : Table) : Run Value := do
  let s ← get
  let f := s.function id
  match f.suspends with
  | some kind => return .object (← Run.newObject ⟨.known kind, [], []⟩)
  | none =>
    let frame ← callFrame f vars (s.frame f.globals).keepsHints
    match f.body with
    | .expr e => evaluate m frame e
    | .block body =>
      match ← executeAll m frame body with
      | .returned v => return v
      | _ => return .none

/-- What calls values, up to the given number of calls inside each other. -/
def machine : (depth : Nat) → Machine
  | 0 => ⟨fun _ _ _ => Run.fail .tooDeep⟩
  | n + 1 =>
    ⟨fun f args keywords => callValue (machine n) (runFunction (machine n)) f args keywords⟩

/-- How many calls may be inside each other. -/
def callLimit : Nat := 1000

end Codebook.Live
