import Mathlib
import Codebook.Live.Describe

/-!
# The same values at another place

Functions and classes are kept in the store and named by their place there. A file that is run in a
session finds the places of the files before it taken, so that its functions and classes get other
numbers than in a fresh session, and nothing else about its values should differ.

* `Base` is what a session holds already, and `Value.moved` a value of a fresh session as it is found
  over that base.
* `Plain` values are those that constants, definitions and operators on them make. None of them is an
  object, so that no code of the source has a say in what they are equal to or how they are written.
* `same_moved`, `quantity?_moved` and the lemmas after them: what is computed from plain values does
  not depend on the base.
-/

namespace Codebook.Live

/-! ## Places -/

/-- What there is in a session before a file is run as the module `name`: so many bodies with
variables, functions and classes, and `table`, the modules by name. The file imports `modules` and
binds them to `imports`, which are public names. -/
structure Base where
  name : String
  table : List (String × Nat)
  modules : List String
  imports : List String
  frames : Nat
  functions : Nat
  classes : Nat
  isPublic_of_mem : ∀ n ∈ imports, Outline.isPublic n = true

variable {b : Base}

/-- A class of a fresh session over a base. -/
def ClassRef.moved (b : Base) : ClassRef → ClassRef
  | .known name => .known name
  | .defined id => .defined (id + b.classes)

/-- Classes at different places stay at different places. -/
theorem ClassRef.moved_injective (b : Base) : Function.Injective (ClassRef.moved b) := by
  intro c d h
  cases c <;> cases d <;> simp_all [ClassRef.moved]

/-- So they are equal over a base when they were before. -/
@[simp]
theorem ClassRef.moved_beq (c d : ClassRef) : (c.moved b == d.moved b) = (c == d) := by
  rw [Bool.eq_iff_iff, beq_iff_eq, beq_iff_eq, (ClassRef.moved_injective b).eq_iff]

/-- Known classes have no place. -/
@[simp]
theorem ClassRef.moved_eq_known {c : ClassRef} {name : String} :
    c.moved b = .known name ↔ c = .known name := by
  cases c <;> simp [ClassRef.moved]

mutual

/-- A value of a fresh session over a base. -/
def Value.moved (b : Base) : Value → Value
  | .tuple items => .tuple (movedAll b items)
  | .list items => .list (movedAll b items)
  | .cls c => .cls (c.moved b)
  | .function id => .function (id + b.functions)
  | .bound self id => .bound (self.moved b) (id + b.functions)
  | .staticMethod f => .staticMethod (f.moved b)
  | .classMethod f => .classMethod (f.moved b)
  | .generic c args => .generic (c.moved b) (movedAll b args)
  | .union members => .union (movedAll b members)
  | v => v

/-- Values of a fresh session over a base. -/
def movedAll (b : Base) : List Value → List Value
  | [] => []
  | v :: vs => v.moved b :: movedAll b vs

end

/-- Values are moved one by one. -/
@[simp]
theorem movedAll_eq_map (vs : List Value) : movedAll b vs = vs.map (Value.moved b) := by
  induction vs with
  | nil => rfl
  | cons v vs ih => rw [movedAll, ih, List.map_cons]

/-! ## Plain values -/

/-- The value is a constant, an empty dictionary or a function that needs no definition. -/
def Value.isLeaf : Value → Bool
  | .none => true
  | .ellipsis => true
  | .notImplemented => true
  | .bool _ => true
  | .int _ => true
  | .float _ => true
  | .complex _ => true
  | .text _ => true
  | .bytes _ => true
  | .dict [] => true
  | .native _ => true
  | _ => false

/-- A value that constants, classes and functions make. -/
inductive Plain : Value → Prop
  | leaf {v : Value} (h : v.isLeaf = true) : Plain v
  | cls (c : ClassRef) : Plain (.cls c)
  | function (id : Nat) : Plain (.function id)
  | staticMethod (id : Nat) : Plain (.staticMethod (.function id))
  | classMethod (id : Nat) : Plain (.classMethod (.function id))
  | tuple {items : List Value} (h : ∀ v ∈ items, Plain v) : Plain (.tuple items)
  | list {items : List Value} (h : ∀ v ∈ items, Plain v) : Plain (.list items)
  | generic {c : ClassRef} {args : List Value} (h : ∀ v ∈ args, Plain v) : Plain (.generic c args)
  | union {members : List Value} (h : ∀ v ∈ members, Plain v) : Plain (.union members)

/-- Constants have no place. -/
theorem Value.moved_of_isLeaf {v : Value} (h : v.isLeaf = true) : v.moved b = v := by
  cases v <;> first | rfl | simp [Value.isLeaf] at h

/-- A moved value is a constant when it was one before. -/
@[simp]
theorem Value.isLeaf_moved (v : Value) : (v.moved b).isLeaf = v.isLeaf := by
  cases v <;> rfl

/-- Only a constant is moved to that constant. -/
theorem Value.moved_eq_iff {v w : Value} (hw : w.isLeaf = true) : v.moved b = w ↔ v = w := by
  constructor
  · intro h
    have hv : v.isLeaf = true := by rw [← Value.isLeaf_moved (b := b), h, hw]
    rwa [Value.moved_of_isLeaf hv] at h
  · rintro rfl
    exact Value.moved_of_isLeaf hw

/-- A value over a base is the one that a fresh session has, and a plain one. -/
def Moved (b : Base) (v w : Value) : Prop :=
  Plain v ∧ w = v.moved b

/-- A constant is the same over every base. -/
theorem Moved.of_isLeaf {v : Value} (h : v.isLeaf = true) : Moved b v v :=
  ⟨.leaf h, (Value.moved_of_isLeaf h).symm⟩

/-! ## What is computed from plain values -/

/-- Numbers are the same over every base. -/
theorem Value.quantity?_moved (v : Value) : (v.moved b).quantity? = v.quantity? := by
  cases v <;> rfl

/-- Integers are the same over every base. -/
theorem Value.int?_moved (v : Value) : (v.moved b).int? = v.int? := by
  cases v <;> rfl

/-- The truth of a value does not depend on its place. -/
theorem Value.isTrue_moved (v : Value) : (v.moved b).isTrue = v.isTrue := by
  cases v <;> simp [Value.moved, Value.isTrue]

/-- Plain values are not objects. -/
theorem Plain.isObject_eq_false {v : Value} (h : Plain v) : v.isObject = false := by
  cases h with
  | leaf h => cases v <;> first | rfl | simp [Value.isLeaf] at h
  | _ => rfl

/-- Whether a constant equals a plain value does not depend on the base. -/
theorem same_moved_of_isLeaf {v w : Value} (hv : v.isLeaf = true) (hw : Plain w) :
    (v.moved b).same (w.moved b) = v.same w := by
  rw [Value.moved_of_isLeaf hv]
  cases hw with
  | leaf hw => rw [Value.moved_of_isLeaf hw]
  | _ => cases v <;> first | rfl | simp [Value.isLeaf] at hv

/-- Nor does it when the constant is on the right. -/
theorem same_moved_of_leaf {v w : Value} (hv : Plain v) (hw : w.isLeaf = true) :
    (v.moved b).same (w.moved b) = v.same w := by
  rw [Value.moved_of_isLeaf hw]
  cases hv with
  | leaf hv => rw [Value.moved_of_isLeaf hv]
  | _ => cases w <;> first | rfl | simp [Value.isLeaf] at hw

/-- Nor does it for values that are compared in order. -/
theorem sameAll_moved {vs ws : List Value}
    (h : ∀ v ∈ vs, ∀ w, Plain w → (v.moved b).same (w.moved b) = v.same w)
    (hws : ∀ w ∈ ws, Plain w) :
    sameAll (vs.map (Value.moved b)) (ws.map (Value.moved b)) = sameAll vs ws := by
  induction vs generalizing ws with
  | nil => cases ws <;> rfl
  | cons v vs ih =>
    cases ws with
    | nil => rfl
    | cons w ws =>
      rw [List.forall_mem_cons] at h hws
      simp only [List.map_cons, sameAll, h.1 w hws.1, ih h.2 hws.2]

/-- Nor does it for values that are compared in any order. -/
theorem allAmong_moved {vs ws : List Value}
    (h : ∀ v ∈ vs, ∀ w, Plain w → (v.moved b).same (w.moved b) = v.same w)
    (hws : ∀ w ∈ ws, Plain w) :
    allAmong (vs.map (Value.moved b)) (ws.map (Value.moved b)) = allAmong vs ws := by
  induction vs with
  | nil => rfl
  | cons v vs ih =>
    rw [List.forall_mem_cons] at h
    have hany : (ws.map (Value.moved b)).any (fun w => (v.moved b).same w) =
        ws.any fun w => v.same w := by
      rw [List.any_map, Bool.eq_iff_iff, List.any_eq_true, List.any_eq_true]
      exact exists_congr fun w => and_congr_right fun hw => by
        rw [Function.comp_apply, h.1 w (hws w hw)]
    simp only [List.map_cons, allAmong, hany, ih h.2]

/-- Plain values are equal wherever they are kept. -/
theorem same_moved {v : Value} (hv : Plain v) :
    ∀ w, Plain w → (v.moved b).same (w.moved b) = v.same w := by
  induction hv with
  | leaf hv => exact fun w hw => same_moved_of_isLeaf hv hw
  | cls c =>
    intro w hw
    cases hw with
    | leaf hw => exact same_moved_of_leaf (.cls c) hw
    | cls d => simp only [Value.moved, Value.same, ClassRef.moved_beq]
    | _ => rfl
  | function i =>
    intro w hw
    cases hw with
    | leaf hw => exact same_moved_of_leaf (.function i) hw
    | function j => simp [Value.moved, Value.same]
    | _ => rfl
  | staticMethod i =>
    intro w hw
    cases hw with
    | leaf hw => exact same_moved_of_leaf (.staticMethod i) hw
    | _ => rfl
  | classMethod i =>
    intro w hw
    cases hw with
    | leaf hw => exact same_moved_of_leaf (.classMethod i) hw
    | _ => rfl
  | tuple h ih =>
    intro w hw
    cases hw with
    | leaf hw => exact same_moved_of_leaf (.tuple h) hw
    | tuple hws => simp only [Value.moved, Value.same, movedAll_eq_map, sameAll_moved ih hws]
    | _ => rfl
  | list h ih =>
    intro w hw
    cases hw with
    | leaf hw => exact same_moved_of_leaf (.list h) hw
    | list hws => simp only [Value.moved, Value.same, movedAll_eq_map, sameAll_moved ih hws]
    | _ => rfl
  | generic h ih =>
    intro w hw
    cases hw with
    | leaf hw => exact same_moved_of_leaf (.generic h) hw
    | generic hws =>
      simp only [Value.moved, Value.same, movedAll_eq_map, ClassRef.moved_beq, sameAll_moved ih hws]
    | _ => rfl
  | union h ih =>
    intro w hw
    cases hw with
    | leaf hw => exact same_moved_of_leaf (.union h) hw
    | union hws =>
      simp only [Value.moved, Value.same, movedAll_eq_map, List.length_map, allAmong_moved ih hws]
    | _ => rfl

/-! ### Sequences -/

/-- Two sequences are joined at every place alike. -/
theorem appended?_moved (v w : Value) :
    appended? (v.moved b) (w.moved b) = (appended? v w).map (Value.moved b) := by
  cases v <;> first | rfl | (cases w <;> simp [Value.moved, appended?])

/-- Plain sequences are joined to a plain one. -/
theorem Plain.appended {v w x : Value} (hv : Plain v) (hw : Plain w) (h : appended? v w = some x) :
    Plain x := by
  unfold appended? at h
  split at h
  · exact Option.some.inj h ▸ .leaf rfl
  · exact Option.some.inj h ▸ .leaf rfl
  · cases hv with
    | leaf hv => cases hv
    | list hv =>
      cases hw with
      | leaf hw => cases hw
      | list hw => exact Option.some.inj h ▸ .list (List.forall_mem_append.mpr ⟨hv, hw⟩)
  · cases hv with
    | leaf hv => cases hv
    | tuple hv =>
      cases hw with
      | leaf hw => cases hw
      | tuple hw => exact Option.some.inj h ▸ .tuple (List.forall_mem_append.mpr ⟨hv, hw⟩)
  · cases h

/-- What can only be joined can only be joined at every place. -/
theorem appendsOnly?_moved (v : Value) : appendsOnly? (v.moved b) = appendsOnly? v := by
  cases v <;> rfl

/-- Items can be changed before or after they are repeated. -/
theorem times_map {α β : Type} (f : α → β) (n : Int) (xs : List α) :
    times n (xs.map f) = (times n xs).map f := by
  simp [times]

/-- Repetition brings no new item. -/
theorem mem_of_mem_times {α : Type} {n : Int} {xs : List α} {x : α} (h : x ∈ times n xs) :
    x ∈ xs := by
  obtain ⟨ys, hys, hx⟩ := List.mem_flatten.mp h
  rwa [(List.mem_replicate.mp hys).2] at hx

/-- A sequence is repeated at every place alike. -/
theorem repeated?_moved (n : Int) (v : Value) :
    repeated? n (v.moved b) = (repeated? n v).map (Value.moved b) := by
  cases v <;> simp [Value.moved, repeated?, times_map]

/-- A plain sequence is repeated to a plain one. -/
theorem Plain.repeated {n : Int} {v x : Value} (hv : Plain v) (h : repeated? n v = some x) :
    Plain x := by
  unfold repeated? at h
  split at h
  · exact Option.some.inj h ▸ .leaf rfl
  · exact Option.some.inj h ▸ .leaf rfl
  · cases hv with
    | leaf hv => cases hv
    | list hv => exact Option.some.inj h ▸ .list fun x hx => hv x (mem_of_mem_times hx)
  · cases hv with
    | leaf hv => cases hv
    | tuple hv => exact Option.some.inj h ▸ .tuple fun x hx => hv x (mem_of_mem_times hx)
  · cases h

/-! ### Alternatives -/

/-- Whether a value is among others does not depend on the base. -/
theorem among_moved {vs : List Value} {v : Value} (hvs : ∀ w ∈ vs, Plain w) (hv : Plain v) :
    among (vs.map (Value.moved b)) (v.moved b) = among vs v := by
  rw [among, among, List.any_map, Bool.eq_iff_iff, List.any_eq_true, List.any_eq_true]
  exact exists_congr fun w => and_congr_right fun hw => by
    rw [Function.comp_apply, same_moved hv w (hvs w hw)]

/-- The last value is kept when no value before equals it. -/
theorem distinct_append_singleton (vs : List Value) (v : Value) :
    distinct (vs ++ [v]) = if among (distinct vs) v then distinct vs else distinct vs ++ [v] := by
  rw [distinct, List.foldl_append]
  rfl

/-- No new value comes up when doubles are dropped. -/
theorem mem_of_mem_distinct {vs : List Value} {v : Value} (h : v ∈ distinct vs) : v ∈ vs := by
  induction vs using List.reverseRecOn with
  | nil => simp [distinct] at h
  | append_singleton vs w ih =>
    rw [distinct_append_singleton] at h
    split at h
    · exact List.mem_append_left _ (ih h)
    · rcases List.mem_append.mp h with h | h
      · exact List.mem_append_left _ (ih h)
      · exact List.mem_append_right _ h

/-- Which values are dropped as doubles does not depend on the base. -/
theorem distinct_moved {vs : List Value} (h : ∀ v ∈ vs, Plain v) :
    distinct (vs.map (Value.moved b)) = (distinct vs).map (Value.moved b) := by
  induction vs using List.reverseRecOn with
  | nil => rfl
  | append_singleton vs v ih =>
    have hvs : ∀ w ∈ vs, Plain w := fun w hw => h w (List.mem_append_left _ hw)
    have hv : Plain v := h v (List.mem_append_right _ (List.mem_singleton_self v))
    rw [List.map_append, List.map_singleton, distinct_append_singleton, distinct_append_singleton,
      ih hvs, among_moved (fun w hw => hvs w (mem_of_mem_distinct hw)) hv]
    split <;> simp

/-- Plain values are no special forms. -/
theorem Plain.isForm_eq_false {v : Value} (h : Plain v) : isForm v = false := by
  cases h with
  | leaf h => cases v <;> first | rfl | simp [Value.isLeaf] at h
  | _ => rfl

/-- A plain value is plain over every base. -/
theorem Plain.moved {v : Value} (h : Plain v) : Plain (v.moved b) := by
  induction h with
  | leaf h => exact .leaf (by rwa [Value.isLeaf_moved])
  | cls c => exact .cls _
  | function i => exact .function _
  | staticMethod i => exact .staticMethod _
  | classMethod i => exact .classMethod _
  | tuple _ ih => exact .tuple (by simpa using ih)
  | list _ ih => exact .list (by simpa using ih)
  | generic _ ih => exact .generic (by simpa using ih)
  | union _ ih => exact .union (by simpa using ih)

/-- What can stand in a union can stand in one over every base. -/
theorem isAlternative_moved {v : Value} (h : Plain v) :
    isAlternative (v.moved b) = isAlternative v := by
  cases h with
  | leaf h => rw [Value.moved_of_isLeaf h]
  | _ => rfl

/-- The alternatives of a union are moved with it, and are plain. -/
theorem alternatives_moved {v : Value} (h : Plain v) (ha : isAlternative v = true) :
    alternatives (unNone (v.moved b)) = (alternatives (unNone v)).map (Value.moved b) ∧
      ∀ w ∈ alternatives (unNone v), Plain w := by
  cases h with
  | leaf h =>
    cases v with
    | none => exact ⟨rfl, List.forall_mem_singleton.mpr (.cls _)⟩
    | _ => simp [isAlternative, Value.isLeaf] at ha h
  | cls c => exact ⟨rfl, List.forall_mem_singleton.mpr (.cls c)⟩
  | generic h => exact ⟨rfl, List.forall_mem_singleton.mpr (.generic h)⟩
  | union h => exact ⟨by simp [Value.moved, unNone, alternatives], h⟩
  | _ => cases ha

/-- The alternatives of two types that are no forms. -/
theorem either?_eq {v w : Value} (hv : isForm v = false) (hw : isForm w = false) :
    either? v w = none ∧ ((isAlternative v && isAlternative w) = false ∨ v = .none ∧ w = .none) ∨
      isAlternative v = true ∧ isAlternative w = true ∧ ¬(v = .none ∧ w = .none) ∧
      either? v w = some (pure
        (match distinct (alternatives (unNone v) ++ alternatives (unNone w)) with
        | [x] => x
        | xs => .union xs)) := by
  unfold either?
  rw [hv, hw, Bool.false_or, if_neg Bool.false_ne_true]
  cases ha : isAlternative v && isAlternative w with
  | false => exact .inl ⟨rfl, .inl rfl⟩
  | true =>
    rw [if_pos rfl]
    rw [Bool.and_eq_true] at ha
    split
    · exact .inl ⟨rfl, .inr ⟨rfl, rfl⟩⟩
    · rename_i hne
      exact .inr ⟨ha.1, ha.2, fun h => hne h.1 h.2, rfl⟩

/-- Two types have the same alternatives, if they have any, wherever they are kept. -/
theorem either?_moved {v w : Value} (hv : Plain v) (hw : Plain w) :
    (either? v w = none ∧ either? (v.moved b) (w.moved b) = none) ∨
      ∃ x y, Moved b x y ∧ either? v w = some (pure x) ∧
        either? (v.moved b) (w.moved b) = some (pure y) := by
  have hnone (v : Value) : v.moved b = .none ↔ v = .none := Value.moved_eq_iff rfl
  rcases either?_eq hv.isForm_eq_false hw.isForm_eq_false with ⟨he, h⟩ | ⟨hav, haw, hne, he⟩ <;>
    rcases either?_eq (hv.moved (b := b)).isForm_eq_false (hw.moved (b := b)).isForm_eq_false with
      ⟨he', h'⟩ | ⟨hav', haw', hne', he'⟩
  · exact .inl ⟨he, he'⟩
  · rw [isAlternative_moved hv] at hav'
    rw [isAlternative_moved hw] at haw'
    rw [hnone, hnone] at hne'
    rw [hav', haw'] at h
    simp [hne'] at h
  · rw [isAlternative_moved hv, isAlternative_moved hw, hav, haw, hnone, hnone] at h'
    simp [hne] at h'
  · obtain ⟨hv', hpv⟩ := alternatives_moved (b := b) hv hav
    obtain ⟨hw', hpw⟩ := alternatives_moved (b := b) hw haw
    have hplain := List.forall_mem_append.mpr ⟨hpv, hpw⟩
    rw [hv', hw', ← List.map_append, distinct_moved hplain] at he'
    have hdistinct : ∀ x ∈ distinct (alternatives (unNone v) ++ alternatives (unNone w)), Plain x :=
      fun x hx => hplain x (mem_of_mem_distinct hx)
    generalize distinct (alternatives (unNone v) ++ alternatives (unNone w)) = xs at *
    refine .inr ⟨_, _, ?_, he, he'⟩
    rcases xs with _ | ⟨x, _ | ⟨y, xs⟩⟩
    · exact ⟨.union (by simp), rfl⟩
    · exact ⟨hdistinct x (List.mem_singleton_self x), rfl⟩
    · exact ⟨.union hdistinct, by simp [Value.moved]⟩

end Codebook.Live
