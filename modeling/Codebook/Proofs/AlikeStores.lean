import Mathlib
import Codebook.Inspection
import Codebook.Proofs.Examinations
import Codebook.Proofs.Relocation

/-!
# Two sessions that hold the same file

A file is run twice, in a fresh session and in one that holds other files. `Over b t u` says that what
it has made so far is the same in both, but for the places: the bodies, functions and classes of the
store `t` are those of `u` from the base `b` on. What `u` holds below the base is left open, so that
nothing of the files before can be asked for.

* `TableAlike`, `FrameAlike`, `FunctionAlike`, `ClassAlike`: what it means for the parts.
* `Along K b R x y`: from stores that are alike, the runs `x` and `y` end alike. Either both have
  results that are related by `R`, or both end early, by exceptions of the same ordinary class or
  because the source is followed no further. The stores are alike again, and `K` says what `x` may
  have changed.
* `Along.bind`, `Along.mapM`, `Along.tryCatch`: such runs one after the other.
-/

namespace Codebook.Live

variable {b : Base}

/-! ## Tables -/

/-- Both values are missing, or both are there and related. -/
theorem rel_cases {α β : Type} {R : α → β → Prop} {x : Option α} {y : Option β}
    (h : Option.Rel R x y) :
    x = none ∧ y = none ∨ ∃ a c, x = some a ∧ y = some c ∧ R a c := by
  cases h with
  | none => exact .inl ⟨rfl, rfl⟩
  | some h => exact .inr ⟨_, _, rfl, rfl, h⟩

/-- The value is a module. -/
def Value.isModule : Value → Bool
  | .module _ => true
  | _ => false

/-- The entries have one name and the same value, but under a name of `free` there may be any two
modules. -/
def EntryAlike (b : Base) (free : List String) (i j : String × Value) : Prop :=
  j.1 = i.1 ∧ (Moved b i.2 j.2 ∨ i.1 ∈ free ∧ i.2.isModule = true ∧ j.2.isModule = true)

/-- The tables have the same entries. -/
def TableAlike (b : Base) (free : List String) : Table → Table → Prop :=
  List.Forall₂ (EntryAlike b free)

namespace TableAlike

variable {free : List String} {t u : Table}

/-- Under one name there are entries that are alike. -/
theorem get? (h : TableAlike b free t u) (name : String) :
    Option.Rel (fun v w => EntryAlike b free (name, v) (name, w)) (t.get? name) (u.get? name) := by
  induction h with
  | nil => exact .none
  | @cons i j t u hij h ih =>
    obtain ⟨n, v⟩ := i
    obtain ⟨m, w⟩ := j
    obtain ⟨hn, hvw⟩ := hij
    cases hn
    simp only [Table.get?, List.lookup_cons]
    by_cases hname : name = n
    · cases hname
      rw [beq_self_eq_true]
      exact .some ⟨rfl, hvw⟩
    · rw [beq_false_of_ne hname]
      exact ih

/-- Under every other name there is the same value. -/
theorem get?_of_not_mem (h : TableAlike b free t u) (name : String) (hn : name ∉ free) :
    Option.Rel (Moved b) (t.get? name) (u.get? name) := by
  rcases rel_cases (h.get? name) with ⟨ht, hu⟩ | ⟨v, w, ht, hu, hvw⟩
  · rw [ht, hu]
    exact .none
  · rw [ht, hu]
    exact .some (hvw.2.resolve_right fun h => hn h.1)

/-- Tables that are alike have the same names. -/
theorem keys_eq (h : TableAlike b free t u) : u.map (·.1) = t.map (·.1) := by
  induction h with
  | nil => rfl
  | cons hij _ ih => rw [List.map_cons, List.map_cons, hij.1, ih]

/-- Entries that are alike can be put into both tables. -/
theorem put (h : TableAlike b free t u) {name : String} {v w : Value}
    (hvw : EntryAlike b free (name, v) (name, w)) :
    TableAlike b free (t.put name v) (u.put name w) := by
  induction h with
  | nil => exact .cons hvw .nil
  | @cons i j t u hij h ih =>
    obtain ⟨n, v'⟩ := i
    obtain ⟨m, w'⟩ := j
    obtain ⟨hn, hvw'⟩ := hij
    cases hn
    simp only [Table.put]
    split
    · rename_i heq
      cases eq_of_beq heq
      exact .cons hvw h
    · exact .cons ⟨rfl, hvw'⟩ ih

/-- A name can be deleted from both tables. -/
theorem erase (h : TableAlike b free t u) (name : String) :
    TableAlike b free (t.erase name) (u.erase name) := by
  induction h with
  | nil => exact .nil
  | @cons i j t u hij h ih =>
    simp only [Table.erase, List.filter_cons, hij.1] at ih ⊢
    split
    · exact .cons hij ih
    · exact ih

/-- A table of constants is the same everywhere. -/
theorem of_isLeaf (h : ∀ i ∈ t, i.2.isLeaf = true) : TableAlike b free t t :=
  List.forall₂_same.mpr fun i hi => ⟨rfl, .inl (.of_isLeaf (h i hi))⟩

/-- Tables that are alike can be joined. -/
theorem append {t' u' : Table} (h : TableAlike b free t u) (h' : TableAlike b free t' u') :
    TableAlike b free (t ++ t') (u ++ u') :=
  List.rel_append h h'

end TableAlike

/-- What is put under a name is found there. -/
theorem Table.get?_put_self (t : Table) (name : String) (v : Value) :
    (t.put name v).get? name = some v := by
  induction t with
  | nil => simp [Table.put, Table.get?]
  | cons i t ih =>
    obtain ⟨n, w⟩ := i
    simp only [Table.put]
    split
    · rename_i heq
      simp [Table.get?, eq_of_beq heq]
    · rename_i hne
      simp only [Table.get?, List.lookup_cons]
      rw [show (name == n) = false from beq_false_of_ne fun h => hne (by simp [h])]
      exact ih

/-- Other names keep their values when one is put. -/
theorem Table.get?_put_of_ne (t : Table) {name other : String} (hne : other ≠ name) (v : Value) :
    (t.put name v).get? other = t.get? other := by
  induction t with
  | nil => simp [Table.put, Table.get?, List.lookup_cons, beq_false_of_ne hne]
  | cons i t ih =>
    obtain ⟨n, w⟩ := i
    simp only [Table.put]
    split
    · rename_i heq
      cases eq_of_beq heq
      simp [Table.get?, List.lookup_cons, beq_false_of_ne hne]
    · simp only [Table.get?, List.lookup_cons] at ih ⊢
      rw [ih]

/-- Other names keep their values when one is taken out. -/
theorem lookup_filter_of_ne {α : Type} (t : List (String × α)) {name other : String}
    (hne : other ≠ name) : (t.filter (·.1 != name)).lookup other = t.lookup other := by
  induction t with
  | nil => rfl
  | cons i t ih =>
    obtain ⟨n, w⟩ := i
    simp only [List.filter_cons, List.lookup_cons] at ih ⊢
    split
    · rw [List.lookup_cons, ih]
    · rename_i hn
      have hn : n = name := by simpa using hn
      rw [ih, hn, beq_false_of_ne hne]

/-- Other names keep their values when one is deleted. -/
theorem Table.get?_erase_of_ne (t : Table) {name other : String} (hne : other ≠ name) :
    (t.erase name).get? other = t.get? other :=
  lookup_filter_of_ne t hne

/-! ## What is kept -/

/-- Two parameters are the same. -/
structure ParameterAlike (b : Base) (p q : Source.Parameter Value) : Prop where
  name : q.name = p.name
  kind : q.kind = p.kind
  hint : Option.Rel (Moved b) p.hint q.hint
  default : Option.Rel (Moved b) p.default q.default

/-- Two functions are the same. Neither has attributes of its own, and they stand in a module or in a
class of a module. -/
structure FunctionAlike (b : Base) (f g : FunctionObject) : Prop where
  name : g.name = f.name
  path : g.path = f.path
  home : g.home = f.home
  home_eq : f.home = .none ∨ f.home = .text b.name
  doc : g.doc = f.doc
  isLeaf_doc : f.doc.isLeaf = true
  params : List.Forall₂ (ParameterAlike b) f.params g.params
  hints : TableAlike b [] f.hints g.hints
  vars : f.vars = [] ∧ g.vars = []
  dots : f.path.toList.count '.' ≤ 1

/-- Two classes are the same. Neither is derived from another one. -/
structure ClassAlike (b : Base) (c d : ClassObject) : Prop where
  name : d.name = c.name
  path : d.path = c.path
  bases : d.bases = c.bases.map (ClassRef.moved b)
  order : d.order = c.order.map (ClassRef.moved b)
  order_tail : ∀ e ∈ c.order.tail, e = .known "object"
  layout : d.layout = c.layout.moved b
  vars : TableAlike b [] c.vars d.vars
  home : ∀ v, c.vars.get? "__module__" = some v → ∃ m, v = .text m

/-- The names that are bound to other modules in the body of the given number. The first body is that
of the module. -/
def Base.free (b : Base) (i : Nat) : List String :=
  if i = 0 then b.imports else []

/-- The variables of a body are the same. It is the body of a module or of a class that stands in no
function. The names that a module or a class gives a meaning to are not bound to anything else. -/
structure FrameAlike (b : Base) (i : Nat) (f g : Frame) : Prop where
  kind : g.kind = f.kind
  kind_ne : f.kind ≠ .call
  vars : TableAlike b (b.free i) f.vars g.vars
  own : g.own = f.own
  declared : f.declared = [] ∧ g.declared = []
  outer : f.outer = [] ∧ g.outer = []
  globals : f.kind = .classBody → f.globals = 0 ∧ g.globals = 0 + b.frames
  path : g.path = f.path
  className : g.className = f.className
  keepsHints : g.keepsHints = f.keepsHints
  name : ∀ v, f.vars.get? "__name__" = some v → v = .text b.name
  home : ∀ v, f.vars.get? "__module__" = some v → ∃ m, v = .text m
  dots : f.path.toList.count '.' ≤ 1
  dir : f.vars.get? "__dir__" = none
  slots : f.vars.get? "__slots__" = none

/-- The body is that of the module of the given name. -/
structure IsRoot (name : String) (f : Frame) : Prop where
  kind : f.kind = .module
  className : f.className = none
  path : f.path = ""
  name : f.vars.get? "__name__" = some (.text name)

/-- The module of the given name can be imported. -/
def Store.canImport (s : Store) (name : String) : Bool :=
  (s.module? name).isSome || (moduleTable.lookup name).isSome || standardModules.contains name

/-- The module of the given name can be imported over a base. -/
def Base.canImport (b : Base) (name : String) : Bool :=
  (b.table.lookup name).isSome || (moduleTable.lookup name).isSome || standardModules.contains name

/-- The store `u` holds over a base what the store `t` holds. -/
structure Over (b : Base) (t u : Store) : Prop where
  frames : ∀ i, FrameAlike b i (t.frame i) (u.frame (i + b.frames))
  frames_size : u.frames.size = t.frames.size + b.frames
  functions : ∀ i, FunctionAlike b (t.function i) (u.function (i + b.functions))
  functions_size : u.functions.size = t.functions.size + b.functions
  classes : ∀ i, ClassAlike b (t.classObject i) (u.classObject (i + b.classes))
  classes_size : u.classes.size = t.classes.size + b.classes
  module : t.module? b.name = some 0 ∧ u.module? b.name = some (0 + b.frames)
  root : 0 < t.frames.size ∧ IsRoot b.name (t.frame 0)
  table : u.modules = b.table
  canImport : ∀ m ∈ b.modules, u.canImport m = t.canImport m

/-- Nothing but objects, exceptions among them, has come up, and what is printed. -/
structure Kept (s t : Store) : Prop where
  frames : t.frames = s.frames
  functions : t.functions = s.functions
  classes : t.classes = s.classes
  modules : t.modules = s.modules

instance : IsPreorder Store Kept where
  refl _ := ⟨rfl, rfl, rfl, rfl⟩
  trans _ _ _ h k := ⟨k.1.trans h.1, k.2.trans h.2, k.3.trans h.3, k.4.trans h.4⟩

/-- What can be imported depends on the base only. -/
theorem Over.canImport_eq {t u : Store} (h : Over b t u) (name : String) :
    u.canImport name = b.canImport name := by
  rw [Store.canImport, Store.module?, h.table]
  rfl

/-- Stores stay alike while nothing but objects comes up in them. -/
theorem Over.of_kept {t u t' u' : Store} (h : Over b t u) (ht : Kept t t') (hu : Kept u u') :
    Over b t' u' := by
  obtain ⟨ht₁, ht₂, ht₃, ht₄⟩ := ht
  obtain ⟨hu₁, hu₂, hu₃, hu₄⟩ := hu
  constructor
  all_goals
    simp only [Store.frame, Store.function, Store.classObject, Store.canImport, Store.module?, ht₁,
      ht₂, ht₃, ht₄, hu₁, hu₂, hu₃, hu₄]
  · exact h.frames
  · exact h.frames_size
  · exact h.functions
  · exact h.functions_size
  · exact h.classes
  · exact h.classes_size
  · exact h.module
  · exact h.root
  · exact h.table
  · exact h.canImport

/-! ### Something new is kept -/

section Push

variable {s : Store} {i : Nat}

/-- A new body comes after the others. -/
theorem Store.frame_push (f : Frame) :
    ({ s with frames := s.frames.push f } : Store).frame i =
      if i = s.frames.size then f else s.frame i := by
  simp only [Store.frame, Array.getD_eq_getD_getElem?, Array.getElem?_push]
  split <;> rfl

/-- A new function comes after the others. -/
theorem Store.function_push (f : FunctionObject) :
    ({ s with functions := s.functions.push f } : Store).function i =
      if i = s.functions.size then f else s.function i := by
  simp only [Store.function, Array.getD_eq_getD_getElem?, Array.getElem?_push]
  split <;> rfl

/-- A new class comes after the others. -/
theorem Store.classObject_push (c : ClassObject) :
    ({ s with classes := s.classes.push c } : Store).classObject i =
      if i = s.classes.size then c else s.classObject i := by
  simp only [Store.classObject, Array.getD_eq_getD_getElem?, Array.getElem?_push]
  split <;> rfl

/-- One body is changed, and no other. -/
theorem Store.frame_modify {k : Nat} (F : Frame → Frame) :
    ({ s with frames := s.frames.modify k F } : Store).frame i =
      if i = k ∧ i < s.frames.size then F (s.frame i) else s.frame i := by
  simp only [Store.frame, Array.getD_eq_getD_getElem?, Array.getElem?_modify]
  rcases eq_or_ne i k with rfl | hik
  · by_cases hi : i < s.frames.size <;> simp [hi]
  · simp [hik, hik.symm]

end Push

section Over

variable {t u : Store} (h : Over b t u)
include h

/-- Bodies that are alike can be added to both stores. -/
theorem Over.push_frame {f g : Frame} (hfg : FrameAlike b t.frames.size f g) :
    Over b { t with frames := t.frames.push f } { u with frames := u.frames.push g } where
  frames i := by
    rw [Store.frame_push, Store.frame_push, h.frames_size]
    split
    · rename_i hi
      rw [if_pos (by omega), hi]
      exact hfg
    · rw [if_neg (by omega)]
      exact h.frames i
  frames_size := by
    simp only [Array.size_push, h.frames_size]
    omega
  functions := h.functions
  functions_size := h.functions_size
  classes := h.classes
  classes_size := h.classes_size
  module := h.module
  root := by
    rw [Store.frame_push, if_neg h.root.1.ne, Array.size_push]
    exact ⟨Nat.succ_pos _, h.root.2⟩
  table := h.table
  canImport := h.canImport

/-- Functions that are alike can be added to both stores. -/
theorem Over.push_function {f g : FunctionObject} (hfg : FunctionAlike b f g) :
    Over b { t with functions := t.functions.push f } { u with functions := u.functions.push g } where
  frames := h.frames
  frames_size := h.frames_size
  functions i := by
    rw [Store.function_push, Store.function_push, h.functions_size]
    split
    · rename_i hi
      rw [if_pos (by omega)]
      exact hfg
    · rw [if_neg (by omega)]
      exact h.functions i
  functions_size := by
    simp only [Array.size_push, h.functions_size]
    omega
  classes := h.classes
  classes_size := h.classes_size
  module := h.module
  root := h.root
  table := h.table
  canImport := h.canImport

/-- Classes that are alike can be added to both stores. -/
theorem Over.push_class {c d : ClassObject} (hcd : ClassAlike b c d) :
    Over b { t with classes := t.classes.push c } { u with classes := u.classes.push d } where
  frames := h.frames
  frames_size := h.frames_size
  functions := h.functions
  functions_size := h.functions_size
  classes i := by
    rw [Store.classObject_push, Store.classObject_push, h.classes_size]
    split
    · rename_i hi
      rw [if_pos (by omega)]
      exact hcd
    · rw [if_neg (by omega)]
      exact h.classes i
  classes_size := by
    simp only [Array.size_push, h.classes_size]
    omega
  module := h.module
  root := h.root
  table := h.table
  canImport := h.canImport

/-- A body can be changed in both stores when it stays alike. -/
theorem Over.modify_frame (k : Nat) {F G : Frame → Frame}
    (hFG : FrameAlike b k (t.frame k) (u.frame (k + b.frames)) →
      FrameAlike b k (F (t.frame k)) (G (u.frame (k + b.frames))))
    (hF : ∀ f, IsRoot b.name f → IsRoot b.name (F f)) :
    Over b { t with frames := t.frames.modify k F }
      { u with frames := u.frames.modify (k + b.frames) G } where
  frames i := by
    rw [Store.frame_modify, Store.frame_modify, h.frames_size]
    split
    · rename_i hi
      rw [if_pos (by omega)]
      rw [hi.1]
      exact hFG (h.frames k)
    · rw [if_neg (by omega)]
      exact h.frames i
  frames_size := by
    simp only [Array.size_modify, h.frames_size]
  functions := h.functions
  functions_size := h.functions_size
  classes := h.classes
  classes_size := h.classes_size
  module := h.module
  root := by
    rw [Store.frame_modify, Array.size_modify]
    refine ⟨h.root.1, ?_⟩
    split
    · exact hF _ h.root.2
    · exact h.root.2
  table := h.table
  canImport := h.canImport

end Over

/-! ### Classes -/

/-- Merged lists hold nothing new. -/
theorem mem_of_mem_mergeSteps {α : Type} [DecidableEq α] {n : Nat} {ls : List (List α)} {r : List α}
    (h : mergeSteps n ls = some r) {a : α} (ha : a ∈ r) : ∃ l ∈ ls, a ∈ l := by
  induction n generalizing ls r with
  | zero =>
    cases h
    cases ha
  | succ n ih =>
    simp only [mergeSteps] at h
    split at h
    · cases h
      cases ha
    · obtain ⟨c, hc, h⟩ := Option.bind_eq_some_iff.mp h
      obtain ⟨rest, hrest, h⟩ := Option.bind_eq_some_iff.mp h
      cases h
      rcases List.mem_cons.mp ha with rfl | ha
      · obtain ⟨l, hl, hhead⟩ := List.mem_filterMap.mp (List.mem_of_find?_eq_some hc)
        exact ⟨l, List.mem_of_mem_filter hl, List.mem_of_mem_head? hhead⟩
      · obtain ⟨l, hl, hal⟩ := ih hrest ha
        obtain ⟨l', hl', rfl⟩ := List.mem_map.mp hl
        refine ⟨l', List.mem_of_mem_filter hl', ?_⟩
        split at hal
        · exact List.mem_of_mem_tail hal
        · exact hal

/-- Classes that need no definition are derived from such classes only. -/
theorem exists_known_of_mem_knownOrderTo {n : Nat} {name : String} {c : ClassRef}
    (h : c ∈ knownOrderTo n name) : ∃ k, c = .known k := by
  induction n generalizing name with
  | zero => exact ⟨name, List.mem_singleton.mp h⟩
  | succ n ih =>
    simp only [knownOrderTo, linearize] at h
    cases hm : merge (((knownClass? name).elim [] (·.bases)).map (knownOrderTo n) ++
      [((knownClass? name).elim [] (·.bases)).map .known]) with
    | none => simp [hm] at h
    | some order =>
      rw [hm] at h
      rcases List.mem_cons.mp h with rfl | h
      · exact ⟨name, rfl⟩
      · obtain ⟨l, hl, hcl⟩ := mem_of_mem_mergeSteps hm h
        rcases List.mem_append.mp hl with hl | hl
        · obtain ⟨base, -, rfl⟩ := List.mem_map.mp hl
          exact ih hcl
        · rw [List.mem_singleton.mp hl] at hcl
          obtain ⟨base, -, rfl⟩ := List.mem_map.mp hcl
          exact ⟨base, rfl⟩

/-- The order of a known class does not depend on the base. -/
theorem knownOrder_moved (name : String) :
    (knownOrder name).map (ClassRef.moved b) = knownOrder name := by
  refine (List.map_congr_left fun c hc => ?_).trans (List.map_id _)
  obtain ⟨k, rfl⟩ := exists_known_of_mem_knownOrderTo hc
  rfl

section Classes

variable {t u : Store} (h : Over b t u)
include h

/-- The classes a class is derived from are the same. -/
theorem Over.order_moved (c : ClassRef) :
    u.order (c.moved b) = (t.order c).map (ClassRef.moved b) := by
  cases c with
  | known name => exact (knownOrder_moved name).symm
  | defined i => exact (h.classes i).order

/-- The variables of a class are the same. -/
theorem Over.classVars_moved (c : ClassRef) :
    TableAlike b [] (t.classVars c) (u.classVars (c.moved b)) := by
  cases c with
  | known name =>
    change TableAlike b [] (t.classVars (.known name)) (t.classVars (.known name))
    unfold Store.classVars
    dsimp only
    split
    · rename_i c hc
      have hdoc : (c.doc.elim Value.none Value.text).isLeaf = true := by cases c.doc <;> rfl
      exact .cons ⟨rfl, .inl (.of_isLeaf rfl)⟩ (.cons ⟨rfl, .inl (.of_isLeaf hdoc)⟩ .nil)
    · exact .nil
  | defined i => exact (h.classes i).vars

/-- The name of a class is the same. -/
theorem Over.className_moved (c : ClassRef) : u.className (c.moved b) = t.className c := by
  cases c with
  | known name => rfl
  | defined i => exact (h.classes i).name

/-- The qualified name of a class is the same. -/
theorem Over.classPath_moved (c : ClassRef) : u.classPath (c.moved b) = t.classPath c := by
  cases c with
  | known name => rfl
  | defined i => exact (h.classes i).path

/-- The docstring of a class is the same. -/
theorem Over.classDoc_moved (c : ClassRef) :
    Moved b (t.classDoc c) (u.classDoc (c.moved b)) := by
  unfold Store.classDoc
  rcases rel_cases ((h.classVars_moved c).get?_of_not_mem "__doc__" List.not_mem_nil) with
    ⟨ht, hu⟩ | ⟨v, w, ht, hu, hvw⟩
  · rw [ht, hu]
    exact .of_isLeaf rfl
  · rw [ht, hu]
    exact hvw

/-- The module of a class is the same, and it is a text if there is one. -/
theorem Over.classHome_moved (c : ClassRef) :
    u.classHome (c.moved b) = t.classHome c ∧
      (t.classHome c = .none ∨ ∃ m, t.classHome c = .text m) := by
  have htext : ∀ v, (t.classVars c).get? "__module__" = some v → ∃ m, v = .text m := by
    cases c with
    | known name =>
      intro v hv
      unfold Store.classVars at hv
      dsimp only at hv
      split at hv
      · rename_i c hc
        exact ⟨c.home, (Option.some.inj hv).symm⟩
      · cases hv
    | defined i => exact (h.classes i).home
  unfold Store.classHome
  rcases rel_cases ((h.classVars_moved c).get?_of_not_mem "__module__" List.not_mem_nil) with
    ⟨ht, hu⟩ | ⟨v, w, ht, hu, -, hvw⟩
  · rw [ht, hu]
    exact ⟨rfl, .inl rfl⟩
  · obtain ⟨m, rfl⟩ := htext v ht
    rw [ht, hu, hvw]
    exact ⟨rfl, .inr ⟨m, rfl⟩⟩

/-- A class is written in the same way. -/
theorem Over.classTitle_moved (c : ClassRef) : u.classTitle (c.moved b) = t.classTitle c := by
  unfold Store.classTitle
  rw [(h.classHome_moved c).1, h.className_moved, h.classPath_moved]

/-- An attribute is found in the same class, with the same value. -/
theorem Over.findAttribute?_moved (c : ClassRef) (name : String) :
    Option.Rel (fun i j => j.1 = i.1.moved b ∧ Moved b i.2 j.2) (t.findAttribute? c name)
      (u.findAttribute? (c.moved b) name) := by
  unfold Store.findAttribute?
  rw [h.order_moved]
  induction t.order c with
  | nil => exact .none
  | cons d ds ih =>
    rw [List.map_cons, List.findSome?_cons, List.findSome?_cons]
    rcases rel_cases ((h.classVars_moved d).get?_of_not_mem name List.not_mem_nil) with
      ⟨ht, hu⟩ | ⟨v, w, ht, hu, hvw⟩
    · rw [ht, hu]
      exact ih
    · rw [ht, hu]
      exact .some ⟨rfl, hvw⟩

end Classes

/-! ## Runs -/

/-- The known class is one of ordinary exceptions. -/
def isOrdinaryClass (name : String) : Bool :=
  (knownOrder name).contains (.known "Exception")

/-- A run that ends early goes on with its handler, in the store it left. -/
theorem Run.run_tryCatch {α : Type} (x : Run α) (f : Signal → Run α) (s : Store) :
    (tryCatch x f : Run α).run.run s =
      match x.run.run s with
      | (.ok a, t) => (.ok a, t)
      | (.error e, t) => (f e).run.run t := by
  rw [ExceptT.run_tryCatch, StateT.run_bind]
  rcases x.run.run s with ⟨r, t⟩
  cases r with
  | error e => rfl
  | ok a => rfl

/-- Two runs end early in the same way. -/
inductive SignalAlike (t u : Store) : Signal → Signal → Prop
  | beyond : SignalAlike t u .beyond .beyond
  | raised {i j : Nat} {name : String} (hname : isOrdinaryClass name = true)
      (ht : (t.object i).cls = .known name) (hu : (u.object j).cls = .known name) :
      SignalAlike t u (.raised (.object i)) (.raised (.object j))

/-- Two runs end in the same way, over stores that are alike. -/
inductive Ends (b : Base) {α β : Type} (R : α → β → Prop) :
    Except Signal α × Store → Except Signal β × Store → Prop
  | done {x : α} {y : β} {t u : Store} (h : Over b t u) (hxy : R x y) :
      Ends b R (.ok x, t) (.ok y, u)
  | ended {e f : Signal} {t u : Store} (h : Over b t u) (hef : SignalAlike t u e f) :
      Ends b R (.error e, t) (.error f, u)

/-- From stores that are alike two runs end in the same way, and the first one changes no more than
`K` allows. -/
def Along (K : Store → Store → Prop) (b : Base) {α β : Type} (R : α → β → Prop) (x : Run α)
    (y : Run β) : Prop :=
  ∀ ⦃t u : Store⦄, Over b t u → Ends b R (x.run.run t) (y.run.run u) ∧ K t (x.run.run t).2

/-- A run may change anything. -/
def Anything (_ _ : Store) : Prop := True

instance : IsPreorder Store Anything where
  refl _ := trivial
  trans _ _ _ _ _ := trivial

namespace Along

variable {K : Store → Store → Prop} {α β γ δ : Type} {R : α → β → Prop} {S : γ → δ → Prop}
  {x : Run α} {y : Run β}

/-- A run that keeps something may also change anything. -/
theorem anything (h : Along K b R x y) : Along Anything b R x y :=
  fun _ _ ho => ⟨(h ho).1, trivial⟩

/-- Results that are related are also related more weakly. -/
theorem mono (h : Along K b R x y) {R' : α → β → Prop} (hR : ∀ a c, R a c → R' a c) :
    Along K b R' x y := by
  intro t u ho
  obtain ⟨he, hk⟩ := h ho
  refine ⟨?_, hk⟩
  generalize x.run.run t = r at he
  generalize y.run.run u = q at he
  cases he with
  | done ho hxy => exact .done ho (hR _ _ hxy)
  | ended ho hef => exact .ended ho hef

/-- A case split on what both runs know. -/
theorem ite {c : Prop} [Decidable c] {x' : Run α} {y' : Run β} (h : c → Along K b R x y)
    (h' : ¬c → Along K b R x' y') : Along K b R (if c then x else x') (if c then y else y') := by
  split
  · exact h ‹_›
  · exact h' ‹_›

variable [IsPreorder Store K]

/-- Both runs return at once. -/
theorem pure {a : α} {c : β} (h : R a c) : Along K b R (pure a) (pure c) :=
  fun t _ ho => ⟨.done ho h, refl_of K t⟩

/-- Both runs look at their stores. -/
theorem get : Along K b (Over b) get get :=
  fun t _ ho => ⟨.done ho ho, refl_of K t⟩

/-- Neither run is followed further. -/
theorem beyond : Along K b R Run.beyond Run.beyond :=
  fun t _ ho => ⟨.ended ho .beyond, refl_of K t⟩

/-- One run after another. -/
theorem bind (hx : Along K b R x y) {f : α → Run γ} {g : β → Run δ}
    (hf : ∀ a c, R a c → Along K b S (f a) (g c)) : Along K b S (x >>= f) (y >>= g) := by
  intro t u ho
  obtain ⟨he, hk⟩ := hx ho
  rw [Run.run_bind, Run.run_bind]
  generalize x.run.run t = r at he hk
  generalize y.run.run u = q at he
  cases he with
  | done ho hac => exact ⟨(hf _ _ hac ho).1, trans_of K hk (hf _ _ hac ho).2⟩
  | ended ho hef => exact ⟨.ended ho hef, hk⟩

/-- One run after another that does not use its result. -/
theorem seq (hx : Along K b R x y) {z : Run γ} {w : Run δ} (hz : Along K b S z w) :
    Along K b S (x >>= fun _ => z) (y >>= fun _ => w) :=
  hx.bind fun _ _ _ => hz

/-- A run for every item, with their results. -/
theorem mapM {f : α → Run γ} {g : β → Run δ} (hf : ∀ a c, R a c → Along K b S (f a) (g c))
    {as : List α} {cs : List β} (h : List.Forall₂ R as cs) :
    Along K b (List.Forall₂ S) (as.mapM f) (cs.mapM g) := by
  induction h with
  | nil => exact pure .nil
  | cons hac _ ih =>
    rw [List.mapM_cons, List.mapM_cons]
    exact (hf _ _ hac).bind fun _ _ hs => ih.bind fun _ _ hss => pure (.cons hs hss)

/-- A run for every item, for what it shows about the item. -/
theorem forM {f : α → Run Unit} {g : β → Run Unit} {P : α → Prop}
    (hf : ∀ a c, R a c → Along K b (fun _ _ => P a) (f a) (g c)) {as : List α} {cs : List β}
    (h : List.Forall₂ R as cs) : Along K b (fun _ _ => ∀ a ∈ as, P a) (as.forM f) (cs.forM g) := by
  induction h with
  | nil => exact pure nofun
  | cons hac _ ih =>
    refine (hf _ _ hac).bind fun _ _ ha => ih.mono fun _ _ has => ?_
    exact List.forall_mem_cons.mpr ⟨ha, has⟩

/-- A run with a handler for its early end. -/
theorem tryCatch (hx : Along K b R x y) {f : Signal → Run α} {g : Signal → Run β}
    (hf : ∀ e e' t u, Over b t u → SignalAlike t u e e' →
      Ends b R ((f e).run.run t) ((g e').run.run u) ∧ K t ((f e).run.run t).2) :
    Along K b R (tryCatch x f) (tryCatch y g) := by
  intro t u ho
  obtain ⟨he, hk⟩ := hx ho
  rw [Run.run_tryCatch, Run.run_tryCatch]
  generalize x.run.run t = r at he hk
  generalize y.run.run u = q at he
  cases he with
  | done ho hac => exact ⟨.done ho hac, hk⟩
  | ended ho hef => exact ⟨(hf _ _ _ _ ho hef).1, trans_of K hk (hf _ _ _ _ ho hef).2⟩

end Along

/-! ### Exceptions -/

/-- Every fault is an ordinary exception. -/
theorem Fault.isOrdinaryClass_kind (f : Fault) : isOrdinaryClass f.kind = true := by
  cases f <;> simp only [Fault.kind] <;> decide +kernel

section Exceptions

variable {α β : Type} {R : α → β → Prop}

/-- Ordinary exceptions of one class end both runs. -/
theorem Along.raiseWith {name : String} (hname : isOrdinaryClass name = true)
    (args args' : List Value) :
    Along Kept b R (Run.raiseWith name args) (Run.raiseWith name args') := by
  intro t u ho
  have hkept (s : Store) (o : Object) : Kept s { s with objects := s.objects.push o } :=
    ⟨rfl, rfl, rfl, rfl⟩
  refine ⟨?_, hkept t ⟨.known name, args, []⟩⟩
  refine .ended (ho.of_kept (hkept t _) (hkept u _)) (.raised hname ?_ ?_)
  · simp [Store.object]
  · simp [Store.object]

/-- Faults of one kind end both runs. -/
theorem Along.fail {f g : Fault} (h : g.kind = f.kind) :
    Along Kept b R (Run.fail f) (Run.fail g) := by
  rw [Run.fail, Run.fail, h]
  exact raiseWith f.isOrdinaryClass_kind _ _

/-- Wrong types end both runs, whatever is said about them. -/
theorem Along.wrongType (message message' : String) :
    Along Kept b R (Run.fail (.wrongType message)) (Run.fail (.wrongType message')) :=
  raiseWith (Fault.isOrdinaryClass_kind (.wrongType message)) _ _

end Exceptions

end Codebook.Live
