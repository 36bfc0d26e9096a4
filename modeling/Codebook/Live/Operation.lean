import Codebook.Live.Arithmetic
import Codebook.Live.Hint
import Codebook.Live.SetOrder
import Codebook.Text.Part

/-!
# Operations on values

Truth, arithmetic, comparison, items and iteration of the values that are known by themselves.
Objects of defined classes could bring operations of their own; a source that uses them is not
followed.
-/

namespace Codebook.Live

open Source Text

/-! ## Truth -/

/-- A value counts as true. -/
def Value.isTrue : Value → Bool
  | .none => false
  | .bool b => b
  | .int n => n != 0
  | .float x => x != 0
  | .complex z => !z.isZero
  | .text s => s != ""
  | .bytes b => !b.isEmpty
  | .tuple items => !items.isEmpty
  | .list items => !items.isEmpty
  | .set items => !items.isEmpty
  | .dict items => !items.isEmpty
  | _ => true

/-- The items of a list as often as a number says. -/
def times {α : Type} (n : Int) (xs : List α) : List α :=
  (List.replicate n.toNat xs).flatten

/-- A sequence as often as a number says. -/
def repeated? (n : Int) : Value → Option Value
  | .text s => some (.text (String.ofList (times n s.toList)))
  | .bytes b => some (.bytes (times n b))
  | .list items => some (.list (times n items))
  | .tuple items => some (.tuple (times n items))
  | _ => none

/-- Two sequences of one kind after each other. -/
def appended? : Value → Value → Option Value
  | .text a, .text b => some (.text (a ++ b))
  | .bytes a, .bytes b => some (.bytes (a ++ b))
  | .list a, .list b => some (.list (a ++ b))
  | .tuple a, .tuple b => some (.tuple (a ++ b))
  | _, _ => none

/-- The name of a sequence that only one of its own kind can be appended to. -/
def appendsOnly? : Value → Option String
  | .text _ => some "str"
  | .list _ => some "list"
  | .tuple _ => some "tuple"
  | _ => none

/-- The value is an object of a class that may have operations of its own. -/
def Value.isObject : Value → Bool
  | .object _ => true
  | _ => false

/-- The items of a dictionary with one more, which takes the place of an item with an equal key. -/
def putItem (k v : Value) : List (Value × Value) → List (Value × Value)
  | [] => [(k, v)]
  | (l, w) :: rest => if l.same k then (l, v) :: rest else (l, w) :: putItem k v rest

/-- The value of an operator between two operands. -/
def binary (op : BinaryOp) (assigns : Bool) (a b : Value) : Run Value :=
  if a.isObject || b.isObject then Run.beyond
  else
    match (if op == .bitOr then either? a b else none) with
    | some r => r
    | none =>
      match op, a, b with
      | .bitAnd, .bool x, .bool y => return .bool (x && y)
      | .bitOr, .bool x, .bool y => return .bool (x || y)
      | .bitXor, .bool x, .bool y => return .bool (x != y)
      | .bitOr, .dict x, .dict y => return .dict (y.foldl (fun d i => putItem i.1 i.2 d) x)
      | .bitOr, .set x, .set y => return .set (setOrder (x ++ y))
      | .bitAnd, .set x, .set y =>
        return .set (setOrder (if y.length ≤ x.length then y.filter (among x) else x.filter (among y)))
      | .sub, .set x, .set y => return .set (setOrder (x.filter fun v => !among y v))
      | .bitXor, .set x, .set y =>
        return .set (setOrder (y.filter (fun v => !among x v) ++ x.filter fun v => !among y v))
      | .mod, .text _, _ => Run.beyond
      | .mod, .bytes _, _ => Run.beyond
      | _, _, _ =>
        match a.quantity?, b.quantity? with
        | some x, some y => x.combine op (unsupported (operatorName op assigns) a b) y
        | _, _ => sequences
where
  /-- An operator between sequences. -/
  sequences : Run Value :=
    match op with
    | .add =>
      match appended? a b, appendsOnly? a with
      | some v, _ => return v
      | none, some kind => do
        let name := (← get).typeName b
        Run.fail (.wrongType ("can only concatenate " ++ kind ++ " (not \"" ++ name ++ "\") to " ++
          kind))
      | none, none => unsupported (operatorName op assigns) a b
    | .mul =>
      match b.int?.bind (repeated? · a), a.int?.bind (repeated? · b) with
      | some v, _ => return v
      | none, some v => return v
      | none, none => unsupported (operatorName op assigns) a b
    | _ => unsupported (operatorName op assigns) a b

/-- The value of an operator before one operand. -/
def unary (op : UnaryOp) (v : Value) : Run Value :=
  match op, v with
  | .not, v => return .bool !v.isTrue
  | _, .object _ => Run.beyond
  | op, v =>
    match v.quantity?.bind (·.signed? op) with
    | some w => return w
    | none => do
      let name := (← get).typeName v
      let sign := match op with
        | .plus => "unary +"
        | .minus => "unary -"
        | _ => "unary ~"
      Run.fail (.wrongType ("bad operand type for " ++ sign ++ ": '" ++ name ++ "'"))

/-! ## Comparison -/

mutual

/-- One value comes before another, if the two can be compared. -/
def Value.before? : Value → Value → Option Bool
  | .text a, .text b => some (a < b)
  | .list a, .list b => beforeAll? a b
  | .tuple a, .tuple b => beforeAll? a b
  | a, b =>
    match a.quantity?, b.quantity? with
    | some x, some y => x.before? y
    | _, _ => .none

/-- One list comes before another: at the first place where they differ, or by being shorter. -/
def beforeAll? : List Value → List Value → Option Bool
  | [], bs => some !bs.isEmpty
  | _ :: _, [] => some false
  | a :: as, b :: bs => if a.same b then beforeAll? as bs else a.before? b

end

/-- Two values are one and the same, as far as that can be told. -/
def Value.identical? (a b : Value) : Option Bool :=
  match a, b with
  | .list _, .list _ => .none
  | .dict _, .dict _ => .none
  | .set _, .set _ => .none
  | .tuple _, .tuple _ => .none
  | .float _, .float _ => .none
  | .bool x, .bool y => some (x == y)
  | .bool _, _ => some false
  | _, .bool _ => some false
  | .int x, .int y => some (x == y)
  | .int _, _ => some false
  | _, .int _ => some false
  | a, b => some (a.same b)

/-- A value is in a container. -/
def contains (v container : Value) : Run Bool :=
  match container, v with
  | .list items, v => return among items v
  | .tuple items, v => return among items v
  | .set items, v => return among items v
  | .dict items, v => return among (items.map (·.1)) v
  | .text s, .text t => return containsPart t.toList s.toList
  | .text _, v => do
    let name := (← get).typeName v
    Run.fail (.wrongType ("'in <string>' requires string as left operand, not " ++ name))
  | .object _, _ => Run.beyond
  | c, _ => do
    let name := (← get).typeName c
    Run.fail (.wrongType ("argument of type '" ++ name ++ "' is not iterable"))

/-- One comparison. -/
def compare (op : CompareOp) (a b : Value) : Run Bool :=
  match op with
  | .eq => return a.same b
  | .notEq => return !a.same b
  | .is => identity
  | .isNot => return !(← identity)
  | .isIn => contains a b
  | .notIn => return !(← contains a b)
  | .lt => ordered (a.before? b)
  | .gt => ordered (b.before? a)
  | .le => ordered ((a.before? b).map (· || a.same b))
  | .ge => ordered ((b.before? a).map (· || a.same b))
where
  /-- Whether the two are the same, if that can be told. -/
  identity : Run Bool :=
    match a.identical? b with
    | some r => return r
    | none => Run.beyond
  /-- The outcome of a comparison, if there is one. -/
  ordered (r : Option Bool) : Run Bool :=
    match r with
    | some r => return r
    | none =>
      if a.isObject || b.isObject then Run.beyond
      else do
        let s ← get
        Run.fail (.wrongType ("'" ++ op.text ++ "' not supported between instances of '" ++
          s.typeName a ++ "' and '" ++ s.typeName b ++ "'"))

/-! ## Items -/

/-- The items that a loop runs over. -/
def iterate (v : Value) : Run (List Value) :=
  match v with
  | .tuple items => return items
  | .list items => return items
  | .set items => return items
  | .dict items => return items.map (·.1)
  | .text s => return s.toList.map fun c => .text (String.singleton c)
  | .bytes b => return b.map fun x => .int x.toNat
  | .object _ => Run.beyond
  | .generic _ _ => return [.unpacked v]
  | .form "Union" (some _) => notIterable
  | .form _ (some _) => return [.unpacked v]
  | _ => notIterable
where
  /-- The value has no items. -/
  notIterable : Run (List Value) := do
    let name := (← get).typeName v
    Run.fail (.wrongType ("'" ++ name ++ "' object is not iterable"))

/-- The place in a sequence of the given length that an index means. -/
def place? (length : Nat) (i : Int) : Option Nat :=
  let j := if i < 0 then i + length else i
  if 0 ≤ j && j < length then some j.toNat else none

/-- The item of a sequence at an index. -/
def itemAt (kind indices : String) (items : List Value) (index : Value) : Run Value :=
  match index.int? with
  | some i =>
    match (place? items.length i).bind (items[·]?) with
    | some v => return v
    | none => Run.fail (.outOfRange kind)
  | none => do
    let name := (← get).typeName index
    Run.fail (.wrongType (indices ++ " must be integers or slices, not " ++ name))

/-- The keys of a dictionary have to be fixed. -/
def needKey (k : Value) : Run Unit := do
  unless k.isKey do
    let name := (← get).typeName k
    Run.fail (.wrongType ("unhashable type: '" ++ name ++ "'"))

/-- A subscript. -/
def subscript (v index : Value) : Run Value :=
  match v with
  | .list items => itemAt "list" "list indices" items index
  | .tuple items => itemAt "tuple" "tuple indices" items index
  | .text s =>
    itemAt "string" "string indices" (s.toList.map fun c => .text (String.singleton c)) index
  | .bytes b => itemAt "index" "byte indices" (b.map fun x => .int x.toNat) index
  | .dict items => do
    needKey index
    match items.find? (·.1.same index) with
    | some (_, w) => return w
    | none => Run.fail (.noKey index)
  | .form name none => subscriptForm name index
  | .form _ (some _) => notGeneric
  | .generic _ _ => notGeneric
  | .union _ => notGeneric
  | .cls (.known name) =>
    if genericClasses.contains name then return .generic (.known name) (argumentList index)
    else Run.fail (.wrongType ("type '" ++ name ++ "' is not subscriptable"))
  | .cls c => do
    let s ← get
    match s.findAttribute? c "__class_getitem__" with
    | some _ => Run.beyond
    | none =>
      match (s.order c).findSome? generic? with
      | some _ => return .generic c (argumentList index)
      | none => Run.fail (.wrongType ("type '" ++ s.className c ++ "' is not subscriptable"))
  | .object _ => Run.beyond
  | v => do
    let name := (← get).typeName v
    Run.fail (.wrongType ("'" ++ name ++ "' object is not subscriptable"))
where
  /-- A type with arguments takes no more of them. -/
  notGeneric : Run Value := do
    let text := (← get).repr v
    Run.fail (.wrongType (text ++ " is not a generic class"))
  /-- A class that takes arguments. -/
  generic? : ClassRef → Option String
    | .known name => if genericClasses.contains name then some name else none
    | .defined _ => none

/-- The part of a list from one bound to another. -/
def cut {α : Type} (items : List α) (lower upper : Option Int) : List α :=
  let n := items.length
  let clamp := fun (i : Int) => (if i < 0 then max (i + n) 0 else min i n).toNat
  let a := (lower.map clamp).getD 0
  let b := (upper.map clamp).getD n
  (items.take b).drop a

/-- A slice of a sequence. -/
def slice (v : Value) (lower upper step : Value) : Run Value := do
  let lo ← bound lower
  let hi ← bound upper
  let by1 ← bound step
  if by1 == none || by1 == some 1 then
    match v with
    | .list items => return .list (cut items lo hi)
    | .tuple items => return .tuple (cut items lo hi)
    | .text s => return .text (String.ofList (cut s.toList lo hi))
    | .bytes b => return .bytes (cut b lo hi)
    | _ => Run.beyond
  else Run.beyond
where
  /-- A bound of the slice. -/
  bound (v : Value) : Run (Option Int) :=
    match v, v.int? with
    | .none, _ => return none
    | _, some n => return some n
    | _, none =>
      Run.fail (.wrongType
        "slice indices must be integers or None or have an __index__ method")

end Codebook.Live
