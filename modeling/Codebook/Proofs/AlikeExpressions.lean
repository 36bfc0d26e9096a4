import Mathlib
import Codebook.Proofs.AlikeStores

/-!
# Expressions in two sessions

The value of a plain expression is the same in sessions that hold the same file, but for the places of
the functions and classes in it. Plain expressions are made of constants and names by operators,
brackets and subscripts, and do not name modules. They call nothing, so that no code of the source
runs while they are evaluated, and nothing changes.

* `along_binary`, `along_unary`, `along_subscript`: one operation on plain values.
* `along_evaluate`: a plain expression.
* `along_evaluateDefaults`, `along_hintTable`: what a definition evaluates before it makes a function.
-/

namespace Codebook.Source

mutual

/-- The expression is made of constants and names that are not `banned` by operators, brackets and
subscripts. -/
def Expr.isPlain (banned : List String) : Expr → Bool
  | .name id => !banned.contains id
  | .constant _ => true
  | .unary _ e => e.isPlain banned
  | .binary _ l r => l.isPlain banned && r.isPlain banned
  | .tuple es => arePlain banned es
  | .list es => arePlain banned es
  | .dict [] => true
  | .subscript e i => e.isPlain banned && i.isPlain banned
  | _ => false

/-- All expressions are plain. -/
def arePlain (banned : List String) : List Expr → Bool
  | [] => true
  | e :: es => e.isPlain banned && arePlain banned es

end

/-- The default and the hint of a parameter are plain. -/
def Parameter.isPlain (banned : List String) (p : Parameter Expr) : Bool :=
  p.default.all (·.isPlain banned) && p.hint.all (·.isPlain banned)

/-- A name that is kept apart starts with one underscore. -/
theorem mangle_eq_self_or (className : Option String) (name : String) :
    mangle className name = name ∨
      ∃ c cs, c ≠ '_' ∧ (mangle className name).toList = '_' :: c :: cs := by
  unfold mangle
  cases className with
  | none => exact .inl rfl
  | some c =>
    dsimp only
    split
    · rename_i h
      simp only [Bool.and_eq_true, bne_iff_ne, ne_eq] at h
      rcases hbare : c.toList.dropWhile (· == '_') with _ | ⟨d, ds⟩
      · rw [hbare] at h
        exact absurd rfl h.1.2
      · have hd : d ≠ '_' := by
          have := List.head?_dropWhile_not (· == '_') c.toList
          rw [hbare] at this
          simpa using this
        exact .inr ⟨d, ds ++ name.toList, hd, by simp⟩
    · exact .inl rfl

end Codebook.Source

namespace Codebook.Live

open Source

variable {b : Base} {K : Store → Store → Prop} [IsPreorder Store K]

/-- Both runs give the same constant. -/
theorem Along.pure_leaf {v : Value} (h : v.isLeaf = true) :
    Along K b (Moved b) (Pure.pure v) (Pure.pure v) :=
  .pure (.of_isLeaf h)

/-! ## Arithmetic -/

section Arithmetic

variable {other other' : Run Value}

/-- An overflow ends both runs. -/
theorem along_overflow (message : String) {α β : Type} {R : α → β → Prop} :
    Along Kept b R (overflow message) (overflow message) :=
  .raiseWith (by decide +kernel) _ _

/-- A missing inverse ends both runs. -/
theorem along_noInverse (message : String) {α β : Type} {R : α → β → Prop} :
    Along Kept b R (noInverse message) (noInverse message) :=
  .raiseWith (by decide +kernel) _ _

/-- An integer is made a float in both runs, or is too large in both. -/
theorem along_toDouble (n : Int) : Along Kept b Eq (toDouble n) (toDouble n) :=
  .ite (fun _ => along_overflow _) fun _ => .pure rfl

/-- A power of complex numbers is computed in both runs. -/
theorem along_powComplex (z w : Decimal.ComplexDouble) :
    Along Kept b (Moved b) (powComplex z w) (powComplex z w) := by
  have hfinite (r : Decimal.ComplexDouble) :
      Along Kept b (Moved b) (powComplex.finite r) (powComplex.finite r) :=
    .ite (fun _ => along_overflow _) fun _ => .pure_leaf rfl
  have hzero : Along Kept b (Moved b) powComplex.zeroPower powComplex.zeroPower :=
    along_noInverse _
  unfold powComplex
  refine .ite (fun _ => ?_) fun _ => .ite (fun _ => ?_) fun _ => hfinite _
  · exact .ite (fun _ => hfinite _) fun _ => .ite (fun _ => hzero) fun _ => hfinite _
  · exact .ite (fun _ => hzero) fun _ => .pure_leaf rfl

/-- A power of floats is computed in both runs. -/
theorem along_powFloat (x y : Float) : Along Kept b (Moved b) (powFloat x y) (powFloat x y) := by
  unfold powFloat
  refine .ite (fun _ => along_noInverse _) fun _ => .ite (fun _ => along_powComplex _ _) fun _ => ?_
  exact .ite (fun _ => .raiseWith (by decide +kernel) _ _) fun _ => .pure_leaf rfl

/-- A quotient of integers is computed in both runs. -/
theorem along_divideInts (m n : Int) :
    Along Kept b (Moved b) (divideInts m n) (divideInts m n) :=
  .ite (fun _ => .fail rfl) fun _ => .ite (fun _ => along_overflow _) fun _ => .pure_leaf rfl

/-- An operation on floats is computed in both runs, if the others are. -/
theorem along_floatOp (h : Along Kept b (Moved b) other other') (op : BinaryOp) (x y : Float) :
    Along Kept b (Moved b) (floatOp op x y other) (floatOp op x y other') := by
  cases op with
  | div => exact .ite (fun _ => .fail rfl) fun _ => .pure_leaf rfl
  | floorDiv => exact .ite (fun _ => .fail rfl) fun _ => .pure_leaf rfl
  | mod => exact .ite (fun _ => along_noInverse _) fun _ => .pure_leaf rfl
  | pow => exact along_powFloat x y
  | add | sub | mul => exact .pure_leaf rfl
  | _ => exact h

/-- An operation on integers is computed in both runs, if the others are. -/
theorem along_intOp (h : Along Kept b (Moved b) other other') (op : BinaryOp) (m n : Int) :
    Along Kept b (Moved b) (intOp op m n other) (intOp op m n other') := by
  cases op with
  | div => exact along_divideInts m n
  | floorDiv | mod | shiftLeft | shiftRight =>
    exact .ite (fun _ => .fail rfl) fun _ => .pure_leaf rfl
  | pow =>
    refine .ite (fun _ => .pure_leaf rfl) fun _ => (along_toDouble m).bind fun x _ hx => ?_
    exact (along_toDouble n).bind fun y _ hy => hx ▸ hy ▸ along_powFloat x y
  | matMul => exact h
  | _ => exact .pure_leaf rfl

/-- An operation on complex numbers is computed in both runs, if the others are. -/
theorem along_complexOp (h : Along Kept b (Moved b) other other') (op : BinaryOp)
    (z w : Decimal.ComplexDouble) :
    Along Kept b (Moved b) (complexOp op z w other) (complexOp op z w other') := by
  cases op with
  | div => exact .ite (fun _ => .fail rfl) fun _ => .pure_leaf rfl
  | pow => exact along_powComplex z w
  | add | sub | mul => exact .pure_leaf rfl
  | _ => exact h

/-- A number is made a float in both runs. -/
theorem along_toFloat (q : Quantity) : Along Kept b Eq q.toFloat q.toFloat := by
  cases q with
  | int n => exact along_toDouble n
  | float x => exact .pure rfl
  | complex z => exact .pure rfl

/-- A number is made a complex one in both runs. -/
theorem along_toComplex (q : Quantity) : Along Kept b Eq q.toComplex q.toComplex := by
  cases q with
  | int n => exact (along_toDouble n).bind fun x y h => .pure (h ▸ rfl)
  | float x => exact .pure rfl
  | complex z => exact .pure rfl

/-- Arithmetic on numbers, given what an operator does that they have not. -/
theorem along_combine (h : Along Kept b (Moved b) other other') (op : BinaryOp) (p q : Quantity) :
    Along Kept b (Moved b) (p.combine op other q) (p.combine op other' q) := by
  have hcomplex (p q : Quantity) : Along Kept b (Moved b)
      (do complexOp op (← p.toComplex) (← q.toComplex) other)
      (do complexOp op (← p.toComplex) (← q.toComplex) other') :=
    (along_toComplex p).bind fun z _ hz => (along_toComplex q).bind fun w _ hw =>
      hz ▸ hw ▸ along_complexOp h op z w
  have hfloat (p q : Quantity) : Along Kept b (Moved b)
      (do floatOp op (← p.toFloat) (← q.toFloat) other)
      (do floatOp op (← p.toFloat) (← q.toFloat) other') :=
    (along_toFloat p).bind fun x _ hx => (along_toFloat q).bind fun y _ hy =>
      hx ▸ hy ▸ along_floatOp h op x y
  cases p with
  | int m =>
    cases q with
    | int n => exact along_intOp h op m n
    | float y => exact .ite (fun _ => hfloat (.int m) (.float y)) fun _ => h
    | complex w => exact .ite (fun _ => hcomplex (.int m) (.complex w)) fun _ => h
  | float x =>
    cases q with
    | complex w => exact .ite (fun _ => hcomplex (.float x) (.complex w)) fun _ => h
    | int n => exact .ite (fun _ => hfloat (.float x) (.int n)) fun _ => h
    | float y => exact .ite (fun _ => hfloat (.float x) (.float y)) fun _ => h
  | complex z => exact .ite (fun _ => hcomplex (.complex z) q) fun _ => h

end Arithmetic

/-! ## Operators -/

section Operators

variable {v w : Value}

/-- A unary operation on a plain value has the same result. -/
theorem along_unary (hv : Plain v) (op : UnaryOp) :
    Along Kept b (Moved b) (unary op v) (unary op (v.moved b)) := by
  cases op with
  | not =>
    change Along Kept b (Moved b) (pure (.bool !v.isTrue)) (pure (.bool !(v.moved b).isTrue))
    rw [Value.isTrue_moved]
    exact .pure_leaf rfl
  | _ =>
    cases hv with
    | leaf h =>
      rw [Value.moved_of_isLeaf h]
      cases v <;> first
        | exact .pure_leaf rfl
        | exact Along.get.bind fun _ _ _ => .wrongType _ _
        | simp [Value.isLeaf] at h
    | _ => exact Along.get.bind fun _ _ _ => .wrongType _ _

/-- The value is a text or bytes. -/
def Value.isTextual : Value → Bool
  | .text _ => true
  | .bytes _ => true
  | _ => false

/-- Text is text at every place. -/
theorem Value.isTextual_moved (v : Value) : (v.moved b).isTextual = v.isTextual := by
  cases v <;> rfl

/-- An operation that is not supported ends both runs. -/
theorem along_unsupported (op : String) (v w v' w' : Value) {α β : Type} {R : α → β → Prop} :
    Along Kept b R (unsupported op v w) (unsupported op v' w') :=
  Along.get.bind fun _ _ _ => .wrongType _ _

/-- Numbers are constants. -/
theorem Value.isLeaf_of_quantity? {p : Quantity} (hp : v.quantity? = some p) : v.isLeaf = true := by
  cases v <;> first | rfl | simp [Value.quantity?] at hp

/-- Between two numbers there is arithmetic, but for the two truth values. -/
theorem binary_of_quantities {p q : Quantity} (hp : v.quantity? = some p)
    (hq : w.quantity? = some q) (op : BinaryOp) :
    (∃ x, x.isLeaf = true ∧ binary op false v w = pure x) ∨
      binary op false v w = p.combine op (unsupported (operatorName op false) v w) q := by
  have hv : Plain v := .leaf (Value.isLeaf_of_quantity? hp)
  have hw : Plain w := .leaf (Value.isLeaf_of_quantity? hq)
  have heither : either? v w = none := by
    rcases either?_eq hv.isForm_eq_false hw.isForm_eq_false with ⟨h, -⟩ | ⟨h, -⟩
    · exact h
    · cases v <;> simp [isAlternative, Value.quantity?] at h hp
  unfold binary
  rw [hv.isObject_eq_false, hw.isObject_eq_false, Bool.or_false, if_neg Bool.false_ne_true, heither,
    ite_self]
  dsimp only
  split
  · exact .inl ⟨_, rfl, rfl⟩
  · exact .inl ⟨_, rfl, rfl⟩
  · exact .inl ⟨_, rfl, rfl⟩
  · cases hp
  · cases hp
  · cases hp
  · cases hp
  · cases hp
  · cases hp
  · cases hp
  · rw [hp, hq]
    exact .inr rfl

/-- A union of types is what `|` makes of plain values, where there is one. -/
theorem binary_of_either (hv : Plain v) (hw : Plain w) {op : BinaryOp} {r : Run Value}
    (h : (if op == .bitOr then either? v w else none) = some r) : binary op false v w = r := by
  unfold binary
  rw [hv.isObject_eq_false, hw.isObject_eq_false, Bool.or_false, if_neg Bool.false_ne_true, h]

/-- Between plain values that are not both numbers, and no types with alternatives, there are the
operators on sequences. -/
theorem binary_of_plain (hv : Plain v) (hw : Plain w) (hn : v.quantity? = none ∨ w.quantity? = none)
    (hd : ¬(v = .dict [] ∧ w = .dict [])) {op : BinaryOp}
    (h : (if op == .bitOr then either? v w else none) = none) :
    binary op false v w =
      if op = .mod ∧ v.isTextual = true then Run.beyond else binary.sequences op false v w := by
  have hset {x : List Value} : ¬Plain (.set x) := fun h => by cases h with | leaf h => cases h
  have hdict {x : List (Value × Value)} (h : Plain (.dict x)) : x = [] := by
    cases h with
    | leaf h => cases x with
      | nil => rfl
      | cons i x => cases h
  unfold binary
  rw [hv.isObject_eq_false, hw.isObject_eq_false, Bool.or_false, if_neg Bool.false_ne_true, h]
  clear h
  dsimp only
  split
  · simp [Value.quantity?] at hn
  · simp [Value.quantity?] at hn
  · simp [Value.quantity?] at hn
  · exact absurd ⟨by rw [hdict hv], by rw [hdict hw]⟩ hd
  · exact absurd hv hset
  · exact absurd hv hset
  · exact absurd hv hset
  · exact absurd hv hset
  · rw [if_pos ⟨rfl, rfl⟩]
  · rw [if_pos ⟨rfl, rfl⟩]
  · rename_i htext hbytes _ _ _ _ _ _ _ _
    rw [if_neg]
    · rcases hn with hn | hn
      · rw [hn]
      · rw [hn]
        cases v.quantity? <;> rfl
    · rintro ⟨hop, h⟩
      cases v with
      | text s => exact htext s hop rfl
      | bytes x => exact hbytes x hop rfl
      | _ => cases h

/-- An operation on sequences of plain values has the same result. -/
theorem along_sequences (hv : Plain v) (hw : Plain w) (op : BinaryOp) :
    Along Kept b (Moved b) (binary.sequences op false v w)
      (binary.sequences op false (v.moved b) (w.moved b)) := by
  cases op with
  | add =>
    simp only [binary.sequences, appended?_moved, appendsOnly?_moved]
    cases happ : appended? v w with
    | some x => exact .pure ⟨hv.appended hw happ, rfl⟩
    | none =>
      cases appendsOnly? v with
      | some kind => exact Along.get.bind fun _ _ _ => .wrongType _ _
      | none => exact along_unsupported _ _ _ _ _
  | mul =>
    have hrepeated (n : Option Int) (v : Value) : n.bind (repeated? · (v.moved b)) =
        (n.bind (repeated? · v)).map (Value.moved b) := by
      cases n with
      | none => rfl
      | some n => exact repeated?_moved n v
    simp only [binary.sequences, Value.int?_moved, hrepeated]
    cases hx : w.int?.bind (repeated? · v) with
    | some x =>
      obtain ⟨n, -, hx⟩ := Option.bind_eq_some_iff.mp hx
      exact .pure ⟨hv.repeated hx, rfl⟩
    | none =>
      cases hx : v.int?.bind (repeated? · w) with
      | some x =>
        obtain ⟨n, -, hx⟩ := Option.bind_eq_some_iff.mp hx
        exact .pure ⟨hw.repeated hx, rfl⟩
      | none => exact along_unsupported _ _ _ _ _
  | _ => exact along_unsupported _ _ _ _ _

/-- An operation on plain values that are not both numbers has the same result. -/
theorem along_binary_of_plain (hv : Plain v) (hw : Plain w)
    (hn : v.quantity? = none ∨ w.quantity? = none) (hd : ¬(v = .dict [] ∧ w = .dict []))
    (op : BinaryOp) :
    Along Kept b (Moved b) (binary op false v w) (binary op false (v.moved b) (w.moved b)) := by
  have heither : ((if op == .bitOr then either? v w else none) = none ∧
      (if op == .bitOr then either? (v.moved b) (w.moved b) else none) = none) ∨
      ∃ x y, Moved b x y ∧ (if op == .bitOr then either? v w else none) = some (pure x) ∧
        (if op == .bitOr then either? (v.moved b) (w.moved b) else none) = some (pure y) := by
    split
    · exact either?_moved hv hw
    · exact .inl ⟨rfl, rfl⟩
  rcases heither with ⟨h, h'⟩ | ⟨x, y, hxy, h, h'⟩
  · have hn' : (v.moved b).quantity? = none ∨ (w.moved b).quantity? = none := by
      rwa [Value.quantity?_moved, Value.quantity?_moved]
    have hd' : ¬(v.moved b = .dict [] ∧ w.moved b = .dict []) := by
      rwa [Value.moved_eq_iff rfl, Value.moved_eq_iff rfl]
    rw [binary_of_plain hv hw hn hd h, binary_of_plain hv.moved hw.moved hn' hd' h',
      Value.isTextual_moved]
    exact .ite (fun _ => .beyond) fun _ => along_sequences hv hw op
  · rw [binary_of_either hv hw h, binary_of_either hv.moved hw.moved h']
    exact .pure hxy

/-- An operator between plain values. -/
theorem along_binary (hv : Plain v) (hw : Plain w) (op : BinaryOp) :
    Along Kept b (Moved b) (binary op false v w) (binary op false (v.moved b) (w.moved b)) := by
  by_cases hd : v = .dict [] ∧ w = .dict []
  · obtain ⟨rfl, rfl⟩ := hd
    cases op <;> first | exact along_unsupported _ _ _ _ _ | exact .pure_leaf rfl
  cases hp : v.quantity? with
  | none => exact along_binary_of_plain hv hw (.inl hp) hd op
  | some p =>
    cases hq : w.quantity? with
    | none => exact along_binary_of_plain hv hw (.inr hq) hd op
    | some q =>
      rw [Value.moved_of_isLeaf (Value.isLeaf_of_quantity? hp),
        Value.moved_of_isLeaf (Value.isLeaf_of_quantity? hq)]
      rcases binary_of_quantities hp hq op with ⟨x, hx, h⟩ | h
      · rw [h]
        exact .pure_leaf hx
      · rw [h]
        exact along_combine (along_unsupported _ _ _ _ _) op p q

end Operators

/-! ## Subscripts -/

section Subscripts

variable {v index : Value}

/-- The item at an index is the same, or missing in both. -/
theorem along_itemAt {items items' : List Value} (h : items' = items.map (Value.moved b))
    (hitems : ∀ v ∈ items, Plain v) (kind indices : String) :
    Along Kept b (Moved b) (itemAt kind indices items index)
      (itemAt kind indices items' (index.moved b)) := by
  unfold itemAt
  rw [Value.int?_moved, h, List.length_map]
  cases index.int? with
  | none => exact Along.get.bind fun _ _ _ => .wrongType _ _
  | some i =>
    dsimp only
    cases hplace : place? items.length i with
    | none => exact .fail rfl
    | some n =>
      simp only [Option.bind_some, List.getElem?_map]
      cases hn : items[n]? with
      | none => exact .fail rfl
      | some x => exact .pure ⟨hitems x (List.mem_of_getElem? hn), rfl⟩

/-- The arguments of a generic type are moved with it. -/
theorem argumentList_moved (v : Value) :
    argumentList (v.moved b) = (argumentList v).map (Value.moved b) := by
  cases v <;> simp [Value.moved, argumentList]

/-- The arguments of a plain type are plain. -/
theorem Plain.of_mem_argumentList {w : Value} (hv : Plain v) (hw : w ∈ argumentList v) :
    Plain w := by
  unfold argumentList at hw
  split at hw
  · cases hv with
    | leaf h => cases h
    | tuple h => exact h w hw
  · rwa [List.mem_singleton.mp hw]

/-- What can be a key can be one at every place. -/
theorem Plain.isKey_moved {v : Value} (hv : Plain v) : (v.moved b).isKey = v.isKey := by
  induction hv with
  | leaf h => rw [Value.moved_of_isLeaf h]
  | @tuple items h ih =>
    simp only [Value.moved, Value.isKey, movedAll_eq_map]
    induction items with
    | nil => rfl
    | cons v vs ihs =>
      rw [List.forall_mem_cons] at h ih
      simp only [List.map_cons, Value.isKey.keysAll, ih.1, ihs h.2 ih.2]
  | _ => rfl

/-- A value that cannot be a key ends both runs. -/
theorem along_needKey (hi : Plain index) :
    Along Kept b (fun _ _ => True) (needKey index) (needKey (index.moved b)) := by
  unfold needKey
  rw [hi.isKey_moved]
  exact .ite (fun _ => .pure trivial) fun _ => Along.get.bind fun _ _ _ => .wrongType _ _

/-- A plain value under a plain index is the same. -/
theorem along_subscript (hv : Plain v) (hi : Plain index) :
    Along Kept b (Moved b) (subscript v index) (subscript (v.moved b) (index.moved b)) := by
  have hgeneric (c : ClassRef) : Moved b (.generic c (argumentList index))
      (.generic (c.moved b) (argumentList (index.moved b))) :=
    ⟨.generic fun w hw => hi.of_mem_argumentList hw, by simp [Value.moved, argumentList_moved]⟩
  cases hv with
  | leaf h =>
    rw [Value.moved_of_isLeaf h]
    cases v with
    | text s =>
      exact along_itemAt (by simp [Value.moved]) (List.forall_mem_map.mpr fun _ _ => .leaf rfl) _ _
    | bytes x =>
      exact along_itemAt (by simp [Value.moved]) (List.forall_mem_map.mpr fun _ _ => .leaf rfl) _ _
    | dict items =>
      cases items with
      | nil => exact (along_needKey hi).seq (.fail rfl)
      | cons i items => cases h
    | _ => first | exact Along.get.bind fun _ _ _ => .wrongType _ _ | cases h
  | tuple h => exact along_itemAt (movedAll_eq_map _) h _ _
  | list h => exact along_itemAt (movedAll_eq_map _) h _ _
  | cls c =>
    cases c with
    | known name => exact .ite (fun _ => .pure (hgeneric _)) fun _ => .wrongType _ _
    | defined i =>
      refine Along.get.bind fun s s' ho => ?_
      have hfirst : (s'.order ((ClassRef.defined i).moved b)).findSome? subscript.generic? =
          (s.order (.defined i)).findSome? subscript.generic? := by
        rw [ho.order_moved, List.findSome?_map]
        congr 1
        funext c
        cases c <;> rfl
      rcases rel_cases (ho.findAttribute?_moved (.defined i) "__class_getitem__") with
        ⟨ht, hu⟩ | ⟨_, _, ht, hu, -⟩
      · rw [ht, hu, hfirst]
        cases (s.order (.defined i)).findSome? subscript.generic? with
        | none => exact .wrongType _ _
        | some name => exact .pure (hgeneric (.defined i))
      · rw [ht, hu]
        exact .beyond
  | _ => exact Along.get.bind fun _ _ _ => .wrongType _ _

end Subscripts

/-! ## Names -/

section Names

variable {name : String}

/-- A variable that no import binds has the same value. -/
theorem FrameAlike.get? {i : Nat} {f g : Frame} (h : FrameAlike b i f g) (hn : name ∉ b.imports) :
    Option.Rel (Moved b) (f.vars.get? name) (g.vars.get? name) := by
  refine h.vars.get?_of_not_mem name ?_
  unfold Base.free
  split
  · exact hn
  · exact List.not_mem_nil

/-- A name that is kept apart is not that of an import, as it is not public. -/
theorem mangle_not_mem_imports (className : Option String) (hn : name ∉ b.imports) :
    mangle className name ∉ b.imports := by
  rcases mangle_eq_self_or className name with h | ⟨c, cs, -, h⟩
  · rwa [h]
  · intro hmem
    have hpublic := b.isPublic_of_mem _ hmem
    simp [Outline.isPublic, h, Text.startsWith, Text.dropPart?] at hpublic

/-- Names that need no definition have the same value everywhere. -/
theorem moved_of_builtin? {v : Value} (h : builtin? name = some v) : Moved b v v := by
  unfold builtin? at h
  split at h
  · exact Option.some.inj h ▸ ⟨.cls _, rfl⟩
  split at h
  · exact Option.some.inj h ▸ ⟨.cls _, rfl⟩
  split at h
  · exact Option.some.inj h ▸ .of_isLeaf rfl
  split at h
  all_goals first | exact Option.some.inj h ▸ .of_isLeaf rfl | cases h

/-- A global name has the same value, or none in both. -/
theorem along_lookupGlobal (g : Nat) (hn : name ∉ b.imports) :
    Along Kept b (Moved b) (lookupGlobal g name) (lookupGlobal (g + b.frames) name) := by
  refine Along.get.bind fun s s' ho => ?_
  rcases rel_cases ((ho.frames g).get? hn) with ⟨ht, hu⟩ | ⟨v, w, ht, hu, hvw⟩
  · rw [ht, hu]
    cases hb : builtin? name with
    | none => exact .fail rfl
    | some v => exact .pure (moved_of_builtin? hb)
  · rw [ht, hu]
    exact .pure hvw

/-- A name has the same value in a body, or none in both. -/
theorem along_lookup (k : Nat) (hn : name ∉ b.imports) :
    Along Kept b (Moved b) (lookup k name) (lookup (k + b.frames) name) := by
  refine Along.get.bind fun s s' ho => ?_
  have hf := ho.frames k
  have hn := mangle_not_mem_imports (s.frame k).className hn
  dsimp only
  rw [hf.declared.1, hf.declared.2, hf.className, hf.kind]
  generalize mangle (s.frame k).className name = name at hn ⊢
  cases hkind : (s.frame k).kind with
  | module => exact along_lookupGlobal k hn
  | call => exact absurd hkind hf.kind_ne
  | classBody =>
    have hglobals : (s'.frame (k + b.frames)).globals = (s.frame k).globals + b.frames := by
      rw [(hf.globals hkind).1, (hf.globals hkind).2]
    have hfree : Along Kept b (Moved b) (lookupFree (s.frame k) name)
        (lookupFree (s'.frame (k + b.frames)) name) := by
      refine Along.get.bind fun r r' _ => ?_
      simp only [Store.owner?, hf.outer.1, hf.outer.2, List.find?_nil, hglobals]
      exact along_lookupGlobal _ hn
    rcases rel_cases (hf.get? hn) with ⟨ht, hu⟩ | ⟨v, w, ht, hu, hvw⟩
    · simp only [List.contains_nil, Bool.false_eq_true, if_false, ht, hu, hf.own, hglobals]
      exact .ite (fun _ => along_lookupGlobal _ hn) fun _ => hfree
    · simp only [List.contains_nil, Bool.false_eq_true, if_false, ht, hu]
      exact .pure hvw

end Names

/-! ## Plain expressions -/

section Expressions

variable (m m' : Machine) (k : Nat)

mutual

/-- A plain expression has the same value in both sessions. -/
theorem along_evaluate : (e : Expr) → e.isPlain b.imports = true →
    Along Kept b (Moved b) (evaluate m k e) (evaluate m' (k + b.frames) e)
  | .name id, h => by
    simp only [Expr.isPlain, Bool.not_eq_true', List.contains_eq_mem, decide_eq_false_iff_not] at h
    simp only [evaluate]
    exact along_lookup k h
  | .constant c, _ => by
    simp only [evaluate]
    refine .pure_leaf ?_
    rcases c with _ | _ | _ | _ | (_ | _ | _) | _ | _ <;> rfl
  | .unary op e, h => by
    simp only [evaluate]
    refine (along_evaluate e h).bind fun v w hvw => ?_
    rw [hvw.2]
    exact along_unary hvw.1 op
  | .binary op l r, h => by
    simp only [Expr.isPlain, Bool.and_eq_true] at h
    simp only [evaluate]
    refine (along_evaluate l h.1).bind fun v v' hv => (along_evaluate r h.2).bind fun w w' hw => ?_
    rw [hv.2, hw.2]
    exact along_binary hv.1 hw.1 op
  | .tuple es, h => by
    simp only [evaluate]
    refine (along_evaluateItems es h).bind fun vs ws hvs => .pure ?_
    exact ⟨.tuple hvs.1, by rw [hvs.2, Value.moved, movedAll_eq_map]⟩
  | .list es, h => by
    simp only [evaluate]
    refine (along_evaluateItems es h).bind fun vs ws hvs => .pure ?_
    exact ⟨.list hvs.1, by rw [hvs.2, Value.moved, movedAll_eq_map]⟩
  | .dict [], _ => by
    simp only [evaluate, evaluatePairs]
    exact .pure_leaf rfl
  | .subscript e i, h => by
    simp only [Expr.isPlain, Bool.and_eq_true] at h
    have hslice : ∀ a b c, i = .slice a b c → False := by
      rintro a b c rfl
      cases h.2
    simp (disch := exact hslice) only [evaluate]
    refine (along_evaluate e h.1).bind fun v v' hv => (along_evaluate i h.2).bind fun w w' hw => ?_
    rw [hv.2, hw.2]
    exact along_subscript hv.1 hw.1

/-- Plain expressions have the same values in both sessions. -/
theorem along_evaluateItems : (es : List Expr) → arePlain b.imports es = true →
    Along Kept b (fun vs ws => (∀ v ∈ vs, Plain v) ∧ ws = vs.map (Value.moved b))
      (evaluateItems m k es) (evaluateItems m' (k + b.frames) es)
  | [], _ => .pure ⟨by simp, rfl⟩
  | e :: es, h => by
    simp only [arePlain, Bool.and_eq_true] at h
    have hstarred : ∀ e', e = .starred e' → False := by
      rintro e' rfl
      cases h.1
    simp (disch := exact hstarred) only [evaluateItems]
    refine (along_evaluate e h.1).bind fun v w hvw =>
      (along_evaluateItems es h.2).bind fun vs ws hvs => .pure ?_
    exact ⟨List.forall_mem_cons.mpr ⟨hvw.1, hvs.1⟩, by rw [hvw.2, hvs.2, List.map_cons]⟩

end

/-- Plain default values are evaluated alike. -/
theorem along_evaluateDefaults {params : List (Parameter Expr)}
    (h : ∀ p ∈ params, p.isPlain b.imports = true) :
    Along Kept b (List.Forall₂ (ParameterAlike b)) (evaluateDefaults m k params)
      (evaluateDefaults m' (k + b.frames) params) := by
  induction params with
  | nil => exact .pure .nil
  | cons p params ih =>
    obtain ⟨name, kind, hint, default⟩ := p
    rw [List.forall_mem_cons] at h
    cases default with
    | none =>
      simp only [evaluateDefaults]
      exact (ih h.2).bind fun ps qs hps => .pure (.cons ⟨rfl, rfl, .none, .none⟩ hps)
    | some e =>
      have he : e.isPlain b.imports = true := (Bool.and_eq_true _ _ ▸ h.1).1
      simp only [evaluateDefaults]
      exact (along_evaluate m m' k e he).bind fun v w hvw => (ih h.2).bind fun ps qs hps =>
        .pure (.cons ⟨rfl, rfl, .none, .some hvw⟩ hps)

/-- A plain annotation is evaluated alike. -/
theorem along_hintValue {e : Expr} (h : e.isPlain b.imports = true) :
    Along Kept b (Moved b) (hintValue m k e) (hintValue m' (k + b.frames) e) := by
  refine Along.get.bind fun s s' ho => ?_
  rw [(ho.frames k).keepsHints]
  refine .ite (fun _ => .pure_leaf rfl) fun _ => ?_
  cases e with
  | starred e => cases h
  | _ => exact along_evaluate m m' k _ h

/-- The annotations of a definition are evaluated alike. -/
theorem along_hintTable {params : List (Parameter Expr)} {returns : Option Expr}
    (h : ∀ p ∈ params, p.isPlain b.imports = true) (hr : returns.all (·.isPlain b.imports) = true) :
    Along Kept b (TableAlike b []) (hintTable m k params returns)
      (hintTable m' (k + b.frames) params returns) := by
  refine Along.get.bind fun s s' ho => ?_
  rw [(ho.frames k).className]
  -- whatever the order, each hint is that of a parameter
  have hhints (ps : List (Parameter Expr)) (hps : ∀ p ∈ ps, p ∈ params) :
      Along Kept b (TableAlike b [])
        ((ps.filterMap fun p => p.hint.map (mangle (s.frame k).className p.name, ·)).mapM
          fun i => do return (i.1, ← hintValue m k i.2))
        ((ps.filterMap fun p => p.hint.map (mangle (s.frame k).className p.name, ·)).mapM
          fun i => do return (i.1, ← hintValue m' (k + b.frames) i.2)) := by
    refine .mapM (R := fun i j => j = i ∧ i.2.isPlain b.imports = true) ?_ ?_
    · rintro ⟨name, e⟩ _ ⟨rfl, he⟩
      exact (along_hintValue m m' k he).bind fun v w hvw => .pure ⟨rfl, .inl hvw⟩
    · refine List.forall₂_same.mpr fun i hi => ⟨rfl, ?_⟩
      obtain ⟨p, hp, hi⟩ := List.mem_filterMap.mp hi
      obtain ⟨e, he, rfl⟩ := Option.map_eq_some_iff.mp hi
      have hplain := (Bool.and_eq_true _ _ ▸ h p (hps p hp)).2
      rwa [he] at hplain
  refine (hhints _ ?_).bind fun t u htu => ?_
  · intro p hp
    simp only [List.mem_append] at hp
    rcases hp with (((hp | hp) | hp) | hp) | hp <;> exact List.mem_of_mem_filter hp
  · cases returns with
    | none => exact .pure htu
    | some e =>
      exact (along_hintValue m m' k hr).bind fun v w hvw =>
        .pure (htu.append (.cons ⟨rfl, .inl hvw⟩ .nil))

end Expressions

end Codebook.Live
