import Mathlib
import Codebook.Proofs.AlikeExpressions
import Codebook.Proofs.PathText

/-!
# Definitions in two sessions

A simple file has imports, definitions of functions and classes, and constants that stand alone. The
signatures of the functions are plain and classes have no bases. Running such a file leaves the same
functions and classes behind in every session in which its imports are found, but for their places.

* `Stmt.isSimple`: the statements of such a file. Names that a module or class gives a meaning to,
  such as `__module__`, are not defined.
* `along_execute_functionDef`, `along_execute_classDef`, `along_execute_importNames`: one statement.
* `along_execute`, `along_executeAll`: any statement, and all of them by induction.
-/

namespace Codebook.Source

/-! ## Simple files -/

/-- The names that a module or a class itself gives a meaning to. -/
def specialNames : List String :=
  ["__name__", "__dir__", "__module__", "__slots__"]

/-- The name has no dot, as every name in a source file. -/
def isUndotted (name : String) : Bool :=
  !name.toList.contains '.'

/-- The name can be given to a function or class. -/
def isSimpleName (name : String) : Bool :=
  isUndotted name && !specialNames.contains name

/-- The function has no decorators and a plain signature. -/
def FunctionDef.isSimple {σ : Type} (banned : List String) (f : FunctionDef σ) : Bool :=
  isSimpleName f.name && f.decorators.isEmpty && f.params.all (·.isPlain banned) &&
    f.returns.all (·.isPlain banned)

/-- The statement does nothing but define a function with a plain signature. -/
def Stmt.isSimpleMember (banned : List String) : Stmt → Bool
  | .functionDef f => f.isSimple banned
  | .expr (.constant _) => true
  | .pass => true
  | _ => false

/-- The class has no bases, arguments or decorators, and nothing in it but functions with plain
signatures. -/
def ClassDef.isSimple (banned : List String) (c : ClassDef Stmt) : Bool :=
  isSimpleName c.name && c.bases.isEmpty && c.keywords.isEmpty && c.decorators.isEmpty &&
    c.body.all (·.isSimpleMember banned)

/-- The import is one of a whole module, which gets a public name. -/
def Alias.isSimple (a : Alias) : Bool :=
  isUndotted a.name && Outline.isPublic a.bound

/-- The statement imports modules or defines a function or class. -/
def Stmt.isSimple (banned : List String) : Stmt → Bool
  | .importNames names => names.all Alias.isSimple
  | .classDef c => c.isSimple banned
  | s => s.isSimpleMember banned

/-- The imports of a statement. -/
def Stmt.imports : Stmt → List Alias
  | .importNames names => names
  | _ => []

/-- The imports among statements. -/
def importsIn (body : List Stmt) : List Alias :=
  body.flatMap Stmt.imports

/-- All statements are simple, and no signature mentions a module. -/
def isSimpleBody (body : List Stmt) : Bool :=
  body.all (·.isSimple ((importsIn body).map (·.bound)))

/-! ### Nothing is declared global -/

section Declared

variable {banned : List String}

/-- The names two parts declare are declared by the whole. -/
theorem globalNames_append (os ps : List Occurrence) :
    globalNames (os ++ ps) = globalNames os ++ globalNames ps :=
  List.filterMap_append

mutual

/-- A plain expression declares no name global. -/
theorem globalNames_of_isPlain : (e : Expr) → e.isPlain banned = true →
    globalNames e.occurrences = []
  | .name _, _ => rfl
  | .constant _, _ => rfl
  | .unary _ e, h => globalNames_of_isPlain e h
  | .binary _ l r, h => by
    rw [Expr.isPlain, Bool.and_eq_true] at h
    rw [Expr.occurrences, globalNames_append, globalNames_of_isPlain l h.1,
      globalNames_of_isPlain r h.2, List.append_nil]
  | .tuple es, h => globalNames_of_arePlain es h
  | .list es, h => globalNames_of_arePlain es h
  | .dict [], _ => rfl
  | .subscript e i, h => by
    rw [Expr.isPlain, Bool.and_eq_true] at h
    rw [Expr.occurrences, globalNames_append, globalNames_of_isPlain e h.1,
      globalNames_of_isPlain i h.2, List.append_nil]

/-- Nor do several of them. -/
theorem globalNames_of_arePlain : (es : List Expr) → arePlain banned es = true →
    globalNames (occurrencesIn es) = []
  | [], _ => rfl
  | e :: es, h => by
    rw [arePlain, Bool.and_eq_true] at h
    rw [occurrencesIn, globalNames_append, globalNames_of_isPlain e h.1,
      globalNames_of_arePlain es h.2, List.append_nil]

end

/-- Nor does one that may be missing. -/
theorem globalNames_option {e : Option Expr} (h : e.all (·.isPlain banned) = true) :
    globalNames (occurrencesOption e) = [] := by
  cases e with
  | none => rfl
  | some e => exact globalNames_of_isPlain e h

/-- Parts that declare no name global make a whole that declares none. -/
theorem globalNames_flatMap {α : Type} {f : α → List Occurrence} {xs : List α}
    (h : ∀ x ∈ xs, globalNames (f x) = []) : globalNames (xs.flatMap f) = [] := by
  induction xs with
  | nil => rfl
  | cons x xs ih =>
    rw [List.forall_mem_cons] at h
    rw [List.flatMap_cons, globalNames_append, h.1, ih h.2, List.append_nil]

/-- Annotations declare no more names global than their expressions. -/
theorem globalNames_hints (later : Bool) {os : List Occurrence} (h : globalNames os = []) :
    globalNames (hintOccurrences later os) = [] := by
  cases later with
  | false => exact h
  | true => rfl

/-- A simple function declares no name global. -/
theorem globalNames_function (later : Bool) {f : FunctionDef Stmt} (h : f.isSimple banned = true) :
    globalNames (Stmt.occurrences later (.functionDef f)) = [] := by
  obtain ⟨isAsync, name, params, returns, decorators, body⟩ := f
  simp only [FunctionDef.isSimple, Bool.and_eq_true, List.isEmpty_iff, List.all_eq_true,
    Parameter.isPlain] at h
  obtain ⟨⟨⟨-, rfl⟩, hparams⟩, hreturns⟩ := h
  have hbind (os : List Occurrence) : globalNames (.bind name :: os) = globalNames os := rfl
  rw [Stmt.occurrences, signatureOccurrences, globalNames_append, globalNames_append,
    globalNames_append, globalNames_append, hbind,
    globalNames_flatMap fun p hp => globalNames_option (hparams p hp).1,
    globalNames_hints later (globalNames_flatMap fun p hp => globalNames_option (hparams p hp).2),
    globalNames_hints later (globalNames_option hreturns)]
  rfl

/-- A simple class declares nothing global. -/
theorem globalNames_members (later : Bool) {body : List Stmt}
    (h : ∀ s ∈ body, s.isSimpleMember banned = true) : globalNames (occurrencesOf later body) = [] := by
  induction body with
  | nil => rfl
  | cons s body ih =>
    rw [List.forall_mem_cons] at h
    have hs : globalNames (s.occurrences later) = [] := by
      have hs := h.1
      unfold Stmt.isSimpleMember at hs
      split at hs
      · exact globalNames_function later hs
      · rfl
      · rfl
      · cases hs
    rw [occurrencesOf, globalNames_append, hs, ih h.2, List.append_nil]

end Declared

end Codebook.Source

namespace Codebook.Live

open Source

variable {b : Base}

/-! ## Known names and classes -/

/-- Special names are not public, and an underscore is their second character. -/
theorem special_of_mem : ∀ n ∈ specialNames,
    Outline.isPublic n = false ∧ n.toList[1]? = some '_' := by
  decide +kernel

/-- Every module that has another name is one in a package. -/
theorem isUndotted_of_mem_moduleSynonyms : ∀ i ∈ moduleSynonyms, isUndotted i.1 = false := by
  decide +kernel

/-- The order and the layout of a class with no base but that of all objects. -/
theorem known_object :
    [ClassRef.known "object"].find? (fun c => !Store.isOpen c) = none ∧
      Store.empty.layoutsAgree [.known "object"] = true ∧
      merge ([ClassRef.known "object"].map Store.empty.order ++ [[.known "object"]]) =
        some [.known "object"] ∧
      Store.empty.widestLayout [.known "object"] = .known "object" := by
  decide +kernel

/-- The class of classes is derived from itself and from the class of all objects. -/
theorem known_type :
    Store.empty.isDerived (.known "type") (.known "type") = true ∧
      knownOrder "type" = [.known "type", .known "object"] := by
  decide +kernel

/-! ## Variables -/

/-- Imported modules are bound to public names. -/
theorem not_mem_imports_of_not_isPublic {name : String} (h : Outline.isPublic name = false) :
    name ∉ b.imports := by
  intro hmem
  rw [b.isPublic_of_mem name hmem] at h
  cases h

/-- No module is bound to a special name. -/
theorem not_mem_imports_of_special {name : String} (h : name ∈ specialNames) : name ∉ b.imports :=
  not_mem_imports_of_not_isPublic (special_of_mem name h).1

/-- A name that is kept apart is no special one. -/
theorem mangle_not_mem_specialNames (className : Option String) {name : String}
    (h : name ∉ specialNames) : mangle className name ∉ specialNames := by
  rcases mangle_eq_self_or className name with hm | ⟨c, cs, hc, hm⟩
  · rwa [hm]
  · intro hmem
    have hsecond := (special_of_mem _ hmem).2
    rw [hm] at hsecond
    exact hc (Option.some.inj hsecond)

/-- Bodies stay alike when a name that is not special is bound in both. -/
theorem FrameAlike.put {i : Nat} {f g : Frame} (h : FrameAlike b i f g) {name : String} {v w : Value}
    (hname : name ∉ specialNames) (hvw : EntryAlike b (b.free i) (name, v) (name, w)) :
    FrameAlike b i { f with vars := f.vars.put name v } { g with vars := g.vars.put name w } := by
  have hne {n : String} (hn : n ∈ specialNames) : (f.vars.put name v).get? n = f.vars.get? n :=
    Table.get?_put_of_ne _ (fun h : n = name => hname (h ▸ hn)) v
  exact { h with
    vars := h.vars.put hvw
    name := by rw [hne (by decide)]; exact h.name
    home := by rw [hne (by decide)]; exact h.home
    dir := by rw [hne (by decide)]; exact h.dir
    slots := by rw [hne (by decide)]; exact h.slots }

/-- The module stays the module of its name while no special name is bound. -/
theorem IsRoot.put {f : Frame} (h : IsRoot b.name f) {name : String} (hname : name ∉ specialNames)
    {v : Value} : IsRoot b.name { f with vars := f.vars.put name v } := by
  have hne : "__name__" ≠ name := by
    rintro rfl
    exact hname (by decide)
  exact { h with name := (Table.get?_put_of_ne _ hne v).trans h.name }

/-- A name is set to entries that are alike. -/
theorem along_setVar (k : Nat) {name : String} {v w : Value} (hname : name ∉ specialNames)
    (hvw : EntryAlike b (b.free k) (name, v) (name, w)) :
    Along Anything b (fun _ _ => True) (Run.setVar k name v) (Run.setVar (k + b.frames) name w) := by
  intro t u ho
  refine ⟨.done ?_ trivial, trivial⟩
  exact ho.modify_frame k (fun hf => hf.put hname hvw) fun _ hf => hf.put hname

/-- What a body that stands in no function binds belongs to itself. -/
theorem FrameAlike.home_eq {i : Nat} {f g : Frame} (h : FrameAlike b i f g) {s : Store} {k : Nat}
    (hf : s.frame k = f ∨ s.frame k = g) (name : String) : s.home k name = k := by
  have hself : (s.frame k).declared = [] ∧ (s.frame k).outer = [] ∧ (s.frame k).kind ≠ .call := by
    rcases hf with hf | hf
    · rw [hf]
      exact ⟨h.declared.1, h.outer.1, h.kind_ne⟩
    · rw [hf, h.kind]
      exact ⟨h.declared.2, h.outer.2, h.kind_ne⟩
  unfold Store.home Store.owner?
  simp [hself.1, hself.2.1, hself.2.2]

/-- A name is bound to the same value. -/
theorem along_bindName (k : Nat) {name : String} {v w : Value} (hname : name ∉ specialNames)
    (hvw : Moved b v w) :
    Along Anything b (fun _ _ => True) (bindName k name v) (bindName (k + b.frames) name w) := by
  refine Along.get.bind fun s s' ho => ?_
  have hf := ho.frames k
  dsimp only
  rw [hf.home_eq (.inl rfl), hf.home_eq (.inr rfl), hf.className]
  exact along_setVar k (mangle_not_mem_specialNames _ hname) ⟨rfl, .inl hvw⟩

/-! ## Functions -/

section Functions

variable {t u : Store} (h : Over b t u)
include h

/-- The module of a body is the same. -/
theorem Over.globals_eq (k : Nat) :
    (if (u.frame (k + b.frames)).kind == .module then k + b.frames
      else (u.frame (k + b.frames)).globals) =
      (if (t.frame k).kind == .module then k else (t.frame k).globals) + b.frames := by
  have hf := h.frames k
  rw [hf.kind]
  cases hkind : (t.frame k).kind with
  | module => rfl
  | classBody =>
    obtain ⟨ht, hu⟩ := hf.globals hkind
    exact hu.trans (congrArg (· + b.frames) ht.symm)
  | call => exact absurd hkind hf.kind_ne

/-- Definitions of a body get the same module, which is that of the file if any. -/
theorem Over.homeOf_eq (k : Nat) :
    homeOf u (k + b.frames) = homeOf t k ∧
      (homeOf t k = .none ∨ homeOf t k = .text b.name) := by
  unfold homeOf
  dsimp only
  rw [h.globals_eq]
  generalize (if (t.frame k).kind == .module then k else (t.frame k).globals) = g
  have hname : "__name__" ∉ b.imports := not_mem_imports_of_special (by decide)
  rcases rel_cases ((h.frames g).get? hname) with ⟨ht, hu⟩ | ⟨v, w, ht, hu, -, hvw⟩
  · rw [ht, hu]
    exact ⟨rfl, .inl rfl⟩
  · cases (h.frames g).name v ht
    rw [ht, hu, hvw]
    exact ⟨rfl, .inr rfl⟩

/-- Definitions of a body get the same qualified name. -/
theorem Over.pathOf_eq (k : Nat) (name : String) : u.pathOf (k + b.frames) name = t.pathOf k name := by
  have hf := h.frames k
  unfold Store.pathOf
  dsimp only
  rw [hf.declared.1, hf.declared.2, hf.path]

/-- What is defined under a name is at most as deep as what its body defines. -/
theorem Over.count_pathOf {k : Nat} {name : String} (hname : isUndotted name = true) :
    (t.pathOf k name).toList.count '.' = (t.frame k).path.toList.count '.' := by
  have hdot : '.' ∉ name.toList := by simpa [isUndotted] using hname
  unfold Store.pathOf
  dsimp only
  rw [(h.frames k).declared.1]
  simp [List.count_eq_zero.mpr hdot]

end Functions

/-- Functions that are alike are made at the same place over the base. -/
theorem along_newFunction {f g : FunctionObject} (hfg : FunctionAlike b f g) :
    Along Anything b (fun i j => j = i + b.functions) (Run.newFunction f) (Run.newFunction g) :=
  fun _ _ ho => ⟨.done (ho.push_function hfg) ho.functions_size, trivial⟩

/-- A definition with the same parts makes the same function. -/
theorem along_defineFunction (k : Nat) {name : String} (hname : isUndotted name = true)
    {ps qs : List (Parameter Value)} {hints hints' : Table} {doc : Value}
    (hps : List.Forall₂ (ParameterAlike b) ps qs)
    (hhints : TableAlike b [] hints hints') (hdoc : doc.isLeaf = true) (body : Body)
    (suspends : Option String) :
    Along Anything b (Moved b) (defineFunction k name ps hints doc body suspends)
      (defineFunction (k + b.frames) name qs hints' doc body suspends) := by
  refine Along.get.bind fun s s' ho => ?_
  refine (along_newFunction ?_).bind fun i j hij => .pure ⟨.function i, by rw [hij]; rfl⟩
  exact {
    name := rfl
    path := ho.pathOf_eq k name
    home := (ho.homeOf_eq k).1
    home_eq := (ho.homeOf_eq k).2
    doc := rfl
    isLeaf_doc := hdoc
    params := by
      rw [(ho.frames k).className, List.forall₂_map_left_iff, List.forall₂_map_right_iff]
      exact hps.imp fun p q h => { h with name := by rw [h.name] }
    hints := hhints
    vars := ⟨rfl, rfl⟩
    dots := by
      rw [ho.count_pathOf hname]
      exact (ho.frames k).dots }

/-- The docstring of a body is a constant. -/
theorem isLeaf_docOf (body : List Stmt) : (docOf body).isLeaf = true := by
  unfold docOf
  split <;> rfl

/-- Two statements end in such a way that those after them are run. -/
def BothNext (f g : Flow) : Prop :=
  f = .next ∧ g = .next

/-- Both runs define the function. -/
theorem along_execute_functionDef (m : Machine) (k : Nat) {f : FunctionDef Stmt}
    (hf : f.isSimple b.imports = true) :
    Along Anything b BothNext (execute m k (.functionDef f))
      (execute m (k + b.frames) (.functionDef f)) := by
  obtain ⟨isAsync, name, params, returns, decorators, body⟩ := f
  simp only [FunctionDef.isSimple, isSimpleName, Bool.and_eq_true, List.isEmpty_iff,
    List.all_eq_true, Bool.not_eq_true', List.contains_eq_mem, decide_eq_false_iff_not] at hf
  obtain ⟨⟨⟨⟨hundotted, hname⟩, rfl⟩, hparams⟩, hreturns⟩ := hf
  simp only [execute, evaluateItems, pure_bind]
  refine (along_evaluateDefaults m m k hparams).anything.bind fun ps qs hps => ?_
  refine (along_hintTable m m k hparams hreturns).anything.bind fun hints hints' hhints => ?_
  refine (along_defineFunction k hundotted hps hhints (isLeaf_docOf body) _ _).bind fun v w hvw => ?_
  exact (along_bindName k hname hvw).seq (.pure ⟨rfl, rfl⟩)

/-! ## Classes -/

/-- Bodies that are alike are opened at the same place, which is not the first. -/
theorem along_newFrame {f g : Frame} (hfg : ∀ i, i ≠ 0 → FrameAlike b i f g) :
    Along Anything b (fun i j => i ≠ 0 ∧ j = i + b.frames) (Run.newFrame f) (Run.newFrame g) :=
  fun _ _ ho =>
    ⟨.done (ho.push_frame (hfg _ ho.root.1.ne')) ⟨ho.root.1.ne', ho.frames_size⟩, trivial⟩

/-- Classes that are alike are made at the same place over the base. -/
theorem along_newClass {c d : Nat → ClassObject}
    (hcd : ∀ i, ClassAlike b (c i) (d (i + b.classes))) :
    Along Anything b (fun i j => j = i + b.classes) (Run.newClass c) (Run.newClass d) := by
  intro t u ho
  refine ⟨.done ?_ ho.classes_size, trivial⟩
  have hd := hcd t.classes.size
  rw [← ho.classes_size] at hd
  exact ho.push_class hd

/-- The name of the module is a text. -/
theorem along_lookupGlobal_name (g : Nat) :
    Along Kept b (fun v w => w = v ∧ ∃ m, v = .text m) (lookupGlobal g "__name__")
      (lookupGlobal (g + b.frames) "__name__") := by
  have hname : "__name__" ∉ b.imports := not_mem_imports_of_special (by decide)
  refine Along.get.bind fun s s' ho => ?_
  rcases rel_cases ((ho.frames g).get? hname) with ⟨ht, hu⟩ | ⟨v, w, ht, hu, -, hvw⟩
  · have hbuiltin : builtin? "__name__" = some (.text "builtins") := by rfl
    rw [ht, hu, hbuiltin]
    exact .pure ⟨rfl, _, rfl⟩
  · cases (ho.frames g).name v ht
    rw [ht, hu, hvw]
    exact .pure ⟨rfl, _, rfl⟩

/-- The names of the variables that the body of a class can start with. -/
def startNames : List String :=
  ["__module__", "__qualname__", "__annotations__", "__doc__"]

/-- The variables that the body of a class starts with are constants. -/
theorem classFrame_vars (home path : String) (body : List Stmt) :
    let vars : Table := [("__module__", .text home), ("__qualname__", .text path)] ++
      (if bodyHints body then [("__annotations__", .dict [])] else []) ++
      (match body with
        | .expr (.constant (.text t _)) :: _ => [("__doc__", .text t)]
        | _ => [])
    (∀ i ∈ vars, i.2.isLeaf = true) ∧ vars.get? "__module__" = some (.text home) ∧
      ∀ n, n ∉ startNames → vars.get? n = none := by
  intro vars
  have hvars : ∀ i ∈ vars, i.2.isLeaf = true ∧ i.1 ∈ startNames := by
    intro i hi
    simp only [vars, List.mem_append, List.mem_cons, List.not_mem_nil, or_false] at hi
    rcases hi with ((rfl | rfl) | hi) | hi
    · exact ⟨rfl, by simp [startNames]⟩
    · exact ⟨rfl, by simp [startNames]⟩
    · split at hi
      · rw [List.mem_singleton.mp hi]
        exact ⟨rfl, by simp [startNames]⟩
      · cases hi
    · split at hi
      · rw [List.mem_singleton.mp hi]
        exact ⟨rfl, by simp [startNames]⟩
      · cases hi
  refine ⟨fun i hi => (hvars i hi).1, rfl, fun n hn => ?_⟩
  exact List.lookup_eq_none_iff.mpr fun i hi => bne_iff_ne.mpr fun h => hn (h ▸ (hvars i hi).2)

/-- The body of a class is opened in both runs. -/
theorem along_classFrame {name : String} (hname : isUndotted name = true) {body : List Stmt}
    (hbody : ∀ s ∈ body, s.isSimpleMember b.imports = true) :
    Along Anything b (fun i j => i ≠ 0 ∧ j = i + b.frames) (classFrame 0 name body)
      (classFrame (0 + b.frames) name body) := by
  refine Along.get.bind fun s s' ho => ?_
  have hf := ho.frames 0
  have hmangle : mangle none name = name := rfl
  have hdots := ho.count_pathOf (k := 0) hname
  rw [ho.root.2.path] at hdots
  dsimp only
  rw [ho.globals_eq, ho.pathOf_eq, hf.className, hf.keepsHints, ho.root.2.className, hmangle]
  refine (along_lookupGlobal_name _).anything.bind ?_
  rintro _ home ⟨rfl, m, rfl⟩
  refine along_newFrame fun i hi => ?_
  obtain ⟨hleaf, hmodule, hother⟩ := classFrame_vars m (s.pathOf 0 name) body
  have hglobals := globalNames_members (s.frame 0).keepsHints hbody
  have haround : s.around 0 = [] ∧ s'.around (0 + b.frames) = [] := by
    unfold Store.around
    dsimp only
    rw [hf.kind, hf.outer.1, hf.outer.2]
    simp [hf.kind_ne]
  exact {
    kind := rfl
    kind_ne := nofun
    vars := .of_isLeaf hleaf
    own := rfl
    declared := by rw [hglobals]; exact ⟨rfl, rfl⟩
    outer := haround
    globals := fun _ => by rw [ho.root.2.kind]; exact ⟨rfl, rfl⟩
    path := rfl
    className := rfl
    keepsHints := rfl
    name := fun v hv => by cases hv.symm.trans (hother _ (by decide))
    home := fun v hv => ⟨m, Option.some.inj (hv.symm.trans hmodule)⟩
    dots := by
      rw [String.toList_append, List.count_append, hdots]
      decide
    dir := hother _ (by decide)
    slots := hother _ (by decide) }

/-- What becomes of a function in a class. -/
theorem adjustSpecial_function (n : String) (i : Nat) (t : Table) :
    adjustSpecial ((n, .function i) :: t) =
      (n, if n = "__new__" then .staticMethod (.function i)
        else if n = "__init_subclass__" ∨ n = "__class_getitem__" then .classMethod (.function i)
        else .function i) :: adjustSpecial t := by
  unfold adjustSpecial
  rw [List.map_cons]
  split <;> simp_all

/-- A name that is no function is left as it is. -/
theorem adjustSpecial_of_ne (n : String) {v : Value} (hv : ∀ i, v ≠ .function i) (t : Table) :
    adjustSpecial ((n, v) :: t) = (n, v) :: adjustSpecial t := by
  unfold adjustSpecial
  rw [List.map_cons]
  split <;> simp_all

/-- Tables stay alike when their special methods are adjusted. -/
theorem TableAlike.adjustSpecial {t u : Table} (h : TableAlike b [] t u) :
    TableAlike b [] (adjustSpecial t) (adjustSpecial u) := by
  induction h with
  | nil => exact .nil
  | @cons i j t u hij _ ih =>
    obtain ⟨n, v⟩ := i
    obtain ⟨_, w⟩ := j
    obtain ⟨rfl, hvw⟩ := hij
    obtain ⟨hv, hw⟩ : Moved b v w := hvw.resolve_right fun h => List.not_mem_nil h.1
    by_cases hfun : ∃ i, v = .function i
    · obtain ⟨i, rfl⟩ := hfun
      rw [hw, Value.moved, adjustSpecial_function, adjustSpecial_function]
      refine .cons ⟨rfl, .inl ?_⟩ ih
      dsimp only
      split
      · exact ⟨.staticMethod i, rfl⟩
      · split
        · exact ⟨.classMethod i, rfl⟩
        · exact ⟨.function i, rfl⟩
    · have hv' : ∀ i, v ≠ .function i := fun i h => hfun ⟨i, h⟩
      have hw' : ∀ i, w ≠ .function i := by
        rintro i rfl
        cases hv with
        | leaf h =>
          rw [Value.moved_of_isLeaf h] at hw
          exact hv' i hw.symm
        | function j => exact hv' j rfl
        | _ => cases hw
      rw [adjustSpecial_of_ne _ hv', adjustSpecial_of_ne _ hw']
      exact .cons ⟨rfl, .inl ⟨hv, hw⟩⟩ ih

/-- What a class makes of the variables of its body under these names is not what they were. -/
def adjustedNames : List String :=
  ["__qualname__", "__doc__", "__new__", "__init_subclass__", "__class_getitem__"]

/-- Other names are left as they are. -/
theorem get?_adjustSpecial {name : String} (hname : name ∉ adjustedNames) (t : Table) :
    (adjustSpecial t).get? name = t.get? name := by
  induction t with
  | nil => rfl
  | cons i t ih =>
    obtain ⟨n, v⟩ := i
    by_cases hfun : ∃ i, v = .function i
    · obtain ⟨i, rfl⟩ := hfun
      rw [adjustSpecial_function]
      by_cases hn : n = name
      · simp only [adjustedNames, List.mem_cons, not_or] at hname
        rw [hn, if_neg hname.2.2.1, if_neg (by simp [hname.2.2.2])]
        simp only [Table.get?, List.lookup_cons, beq_self_eq_true]
      · simp only [Table.get?, List.lookup_cons, beq_false_of_ne (Ne.symm hn)] at ih ⊢
        exact ih
    · rw [adjustSpecial_of_ne _ fun i h => hfun ⟨i, h⟩]
      simp only [Table.get?, List.lookup_cons] at ih ⊢
      rw [ih]

/-- A class without bases is derived from `object` only. -/
theorem run_orderFrom_object (s : Store) :
    (orderFrom [.known "object"]).run.run s = (.ok [.known "object"], s) := by
  obtain ⟨hopen, hagree, hmerge, -⟩ := known_object
  replace hagree : s.layoutsAgree [.known "object"] = true := hagree
  replace hmerge : merge ([ClassRef.known "object"].map s.order ++ [[.known "object"]]) =
      some [.known "object"] := hmerge
  have hget : (get : Run Store).run.run s = (.ok s, s) := rfl
  unfold orderFrom
  rw [Run.run_bind, hget]
  dsimp only
  rw [hopen]
  dsimp only
  rw [hagree, hmerge]
  rfl

/-- No object is told its name, as there is none. -/
theorem along_nameMembers (m : Machine) (c d : ClassRef) {t u : Table} (h : TableAlike b [] t u) :
    Along Kept b (fun _ _ => True) (nameMembers m c t) (nameMembers m d u) := by
  refine Along.mono (K := Kept) (.forM (P := fun _ => True) ?_ h) fun _ _ _ => trivial
  rintro ⟨n, v⟩ ⟨_, w⟩ ⟨rfl, hvw | ⟨hfree, -⟩⟩
  · obtain ⟨hv, hw⟩ : Moved b v w := hvw
    rw [hw]
    cases hv with
    | leaf h =>
      rw [Value.moved_of_isLeaf h]
      cases v <;> first | exact .pure trivial | simp [Value.isLeaf] at h
    | _ => exact .pure trivial
  · cases hfree

/-- No other class is told about a class that has no bases. -/
theorem along_tellBases (m : Machine) (i : Nat) :
    Along Kept b (fun _ _ => True) (tellBases m (.defined i) [])
      (tellBases m (.defined (i + b.classes)) []) := by
  have hnone (s : Store) {order : List ClassRef} (h : ∀ d ∈ order, d = .known "object") :
      order.findSome? (fun d => (s.classVars d).get? "__init_subclass__") = none := by
    refine List.findSome?_eq_none_iff.mpr fun d hd => ?_
    rw [h d hd]
    rfl
  refine Along.get.bind fun s s' ho => ?_
  have hc := ho.classes i
  have htail : ∀ d ∈ (s'.order (.defined (i + b.classes))).tail, d = .known "object" := by
    intro d hd
    rw [Store.order, hc.order, ← List.map_tail] at hd
    obtain ⟨e, he, rfl⟩ := List.mem_map.mp hd
    rw [hc.order_tail e he]
    rfl
  have htail' : ∀ d ∈ (s.order (.defined i)).tail, d = .known "object" := hc.order_tail
  rw [hnone s htail', hnone s' htail]
  exact .pure trivial

/-- What a class keeps of the variables of its body. -/
def keptVars (vars : Table) : Table :=
  let vars := adjustSpecial (vars.erase "__qualname__")
  if (vars.get? "__doc__").isSome then vars else vars.put "__doc__" .none

/-- What is kept of the variables of a class is alike. -/
theorem TableAlike.keptVars {t u : Table} (h : TableAlike b [] t u) :
    TableAlike b [] (keptVars t) (keptVars u) := by
  have hkept := (h.erase "__qualname__").adjustSpecial
  unfold Live.keptVars
  dsimp only
  rcases rel_cases (hkept.get? "__doc__") with ⟨ht, hu⟩ | ⟨_, _, ht, hu, -⟩
  · rw [ht, hu]
    exact hkept.put ⟨rfl, .inl (.of_isLeaf rfl)⟩
  · rw [ht, hu]
    exact hkept

/-- What is kept under a name that is not adjusted is what was there. -/
theorem get?_keptVars {name : String} (hname : name ∉ adjustedNames) (t : Table) :
    (keptVars t).get? name = t.get? name := by
  have hother : name ≠ "__qualname__" ∧ name ≠ "__doc__" := by
    simp only [adjustedNames, List.mem_cons, not_or] at hname
    exact ⟨hname.1, hname.2.1⟩
  have herase : (adjustSpecial (t.erase "__qualname__")).get? name = t.get? name := by
    rw [get?_adjustSpecial hname, Table.get?_erase_of_ne _ hother.1]
  unfold keptVars
  dsimp only
  split
  · exact herase
  · rw [Table.get?_put_of_ne _ hother.2, herase]

/-- The full name of a class that is made of some variables. -/
def givenPath (name : String) (vars : Table) : Run String := do
  match vars.get? "__qualname__" with
  | some (.text p) => return p
  | some v =>
    let type := (← get).typeName v
    Run.fail (.wrongType ("type __qualname__ must be a str, not " ++ type))
  | none => return name

/-- The class of the given number that has no bases. -/
def plainClass (name path : String) (vars : Table) (i : Nat) : ClassObject where
  name
  path
  bases := [.known "object"]
  order := [.defined i, .known "object"]
  layout := .known "object"
  vars := keptVars vars

/-- Keeps a class without bases and tells those that are to know about it. -/
def addClass (m : Machine) (name path : String) (vars : Table) : Run Value := do
  let id ← Run.newClass (plainClass name path vars)
  nameMembers m (.defined id) (keptVars vars)
  tellBases m (.defined id) []
  return .cls (.defined id)

/-- A class without bases and slots is made in one step. -/
theorem run_makeClass (m : Machine) (name : String) {vars : Table}
    (hslots : vars.get? "__slots__" = none) (s : Store) :
    (makeClass m name [] vars []).run.run s =
      (do addClass m name (← givenPath name vars) vars : Run Value).run.run s := by
  have hlayout : s.widestLayout [.known "object"] = .known "object" := known_object.2.2.2
  have hget : (get : Run Store).run.run s = (.ok s, s) := rfl
  unfold makeClass givenPath
  simp only [List.isEmpty_nil, if_true]
  rw [Run.run_bind, run_orderFrom_object]
  dsimp only
  rw [Run.run_bind, hget]
  dsimp only
  rw [hlayout, hslots]
  cases vars.get? "__qualname__" with
  | none => rfl
  | some v => cases v <;> rfl

/-- The qualified name that a class gives itself is the same. -/
theorem along_givenPath (name : String) {vars vars' : Table} (h : TableAlike b [] vars vars') :
    Along Kept b Eq (givenPath name vars) (givenPath name vars') := by
  unfold givenPath
  rcases rel_cases (h.get?_of_not_mem "__qualname__" List.not_mem_nil) with
    ⟨ht, hu⟩ | ⟨v, w, ht, hu, hv, hvw⟩
  · rw [ht, hu]
    exact .pure rfl
  · rw [ht, hu, hvw]
    -- what is no text ends both runs
    cases hv with
    | leaf hv =>
      rw [Value.moved_of_isLeaf hv]
      cases v with
      | text p => exact .pure rfl
      | _ => exact Along.get.bind fun _ _ _ => .wrongType _ _
    | _ => exact Along.get.bind fun _ _ _ => .wrongType _ _

section AddClass

variable {vars vars' : Table} (h : TableAlike b [] vars vars')
  (hhome : ∀ v, vars.get? "__module__" = some v → ∃ m, v = .text m) (name path : String)
include h hhome

/-- Classes with variables that are alike are alike. -/
theorem plainClass_alike (i : Nat) :
    ClassAlike b (plainClass name path vars i) (plainClass name path vars' (i + b.classes)) where
  name := rfl
  path := rfl
  bases := rfl
  order := rfl
  order_tail e he := List.mem_singleton.mp he
  layout := rfl
  vars := h.keptVars
  home v hv := hhome v ((get?_keptVars (by decide) vars).symm.trans hv)

/-- A class is added to both stores. -/
theorem along_addClass (m : Machine) :
    Along Anything b (Moved b) (addClass m name path vars) (addClass m name path vars') := by
  refine (along_newClass (plainClass_alike h hhome name path)).bind ?_
  rintro i _ rfl
  exact (along_nameMembers m _ _ h.keptVars).anything.seq
    ((along_tellBases m i).anything.seq (.pure ⟨.cls (.defined i), rfl⟩))

end AddClass

/-- A class without bases and slots is made in both runs. -/
theorem along_makeClass (m : Machine) (name : String) {vars vars' : Table}
    (h : TableAlike b [] vars vars') (hhome : ∀ v, vars.get? "__module__" = some v → ∃ m, v = .text m)
    (hslots : vars.get? "__slots__" = none) :
    Along Anything b (Moved b) (makeClass m name [] vars []) (makeClass m name [] vars' []) := by
  have hslots' : vars'.get? "__slots__" = none := by
    rcases rel_cases (h.get? "__slots__") with ⟨-, hu⟩ | ⟨_, _, ht, -⟩
    · exact hu
    · rw [hslots] at ht
      cases ht
  have hmade : Along Anything b (Moved b)
      (do addClass m name (← givenPath name vars) vars : Run Value)
      (do addClass m name (← givenPath name vars') vars') := by
    refine (along_givenPath name h).anything.bind ?_
    rintro path _ rfl
    exact along_addClass h hhome name path m
  intro t u ho
  rw [run_makeClass m name hslots, run_makeClass m name hslots']
  exact hmade ho

/-- A class that is no object of another class is made as such. -/
theorem run_makeBy_type (m : Machine) (name : String) (vars : Table) (s : Store) :
    (makeBy m (.cls (.known "type")) name [] vars []).run.run s =
      (makeClass m name [] vars []).run.run s := by
  have hderived : s.isDerived (.known "type") (.known "type") = true := known_type.1
  have hplain : (((s.order (.known "type")).flatMap fun d => s.classVars d).all fun i =>
      i.1 == "__module__" || i.1 == "__doc__") = true := by
    rw [Store.order, known_type.2]
    rfl
  have hget : (get : Run Store).run.run s = (.ok s, s) := rfl
  unfold makeBy
  rw [Run.run_bind, hget]
  dsimp only
  rw [hderived, hplain]
  rfl

/-- So it is by `type`, the class of classes. -/
theorem along_makeBy_type (m : Machine) (name : String) {vars vars' : Table}
    (h : TableAlike b [] vars vars') (hhome : ∀ v, vars.get? "__module__" = some v → ∃ m, v = .text m)
    (hslots : vars.get? "__slots__" = none) :
    Along Anything b (Moved b) (makeBy m (.cls (.known "type")) name [] vars [])
      (makeBy m (.cls (.known "type")) name [] vars' []) := by
  intro t u ho
  rw [run_makeBy_type, run_makeBy_type]
  exact along_makeClass m name h hhome hslots ho

/-- A simple class is defined in both runs when its body is run in both. -/
theorem along_execute_classDef (m : Machine) {c : ClassDef Stmt} (hc : c.isSimple b.imports = true)
    (hbody : ∀ i, Along Anything b BothNext (executeAll m i c.body)
      (executeAll m (i + b.frames) c.body)) :
    Along Anything b BothNext (execute m 0 (.classDef c)) (execute m (0 + b.frames) (.classDef c)) := by
  obtain ⟨name, bases, keywords, decorators, body⟩ := c
  simp only [ClassDef.isSimple, isSimpleName, Bool.and_eq_true, List.isEmpty_iff,
    List.all_eq_true, Bool.not_eq_true', List.contains_eq_mem, decide_eq_false_iff_not] at hc
  obtain ⟨⟨⟨⟨⟨hundotted, hname⟩, rfl⟩, rfl⟩, rfl⟩, hmembers⟩ := hc
  simp only [execute, evaluateItems, evaluateKeywords, pure_bind, List.mapM_nil, List.flatten_nil,
    Table.get?, List.lookup_nil]
  refine Along.get.bind fun _ _ _ => Along.pure (R := fun c d => c = .known "type" ∧ d = c) ⟨rfl, rfl⟩
    |>.bind ?_
  rintro _ maker ⟨rfl, rfl⟩
  refine (along_classFrame hundotted hmembers).bind ?_
  rintro i _ ⟨hi, rfl⟩
  refine (hbody i).seq (Along.get.bind fun s s' ho => ?_)
  have hf := ho.frames i
  have hvars : TableAlike b [] (s.frame i).vars (s'.frame (i + b.frames)).vars := by
    have hvars := hf.vars
    rwa [Base.free, if_neg hi] at hvars
  refine (along_makeBy_type m name hvars hf.home hf.slots).bind fun v w hvw => ?_
  exact (along_bindName 0 hname hvw).seq (.pure ⟨rfl, rfl⟩)

/-! ## Imports -/

section Imports

variable {name : String}

/-- A name without a dot has one part. -/
theorem dottedParts_of_isUndotted (h : isUndotted name = true) : Text.dottedParts name = [name] := by
  have hdot : '.' ∉ name.toList := by simpa [isUndotted] using h
  rw [Text.dottedParts, Text.split_eq_splitOn, List.splitOn_eq_singleton hdot]
  simp

/-- A module that can be imported is found, and nothing changes. One that cannot be imported is not
found. -/
theorem run_findModule (h : isUndotted name = true) (s : Store) :
    if s.canImport name then ∃ r, (findModule name).run.run s = (.ok r, s)
    else (findModule name).run.run s = (Run.fail (.noModule name) : Run ModuleRef).run.run s := by
  have hsynonym : moduleSynonyms.lookup name = none := by
    refine List.lookup_eq_none_iff.mpr fun i hi => bne_iff_ne.mpr ?_
    rintro rfl
    rw [isUndotted_of_mem_moduleSynonyms i hi] at h
    cases h
  have htop : (Text.dottedParts name).headD "" = name := by
    rw [dottedParts_of_isUndotted h]
    rfl
  have hget : (get : Run Store).run.run s = (.ok s, s) := rfl
  unfold findModule
  rw [Run.run_bind, hget]
  dsimp only
  rw [htop, hsynonym]
  cases hmodule : s.module? name with
  | some f =>
    rw [if_pos (by simp [Store.canImport, hmodule])]
    exact ⟨.loaded f, rfl⟩
  | none =>
    simp only [Store.canImport, hmodule, Option.isSome_none, Bool.false_or, Bool.false_eq_true,
      if_false, bne_self_eq_false, Bool.false_and]
    split
    · exact ⟨.known name, rfl⟩
    · rfl

/-- A module is found in both sessions or in none. -/
theorem along_findModule (h : isUndotted name = true) (hm : name ∈ b.modules) :
    Along Kept b (fun _ _ => b.canImport name = true) (findModule name) (findModule name) := by
  intro t u ho
  have htrun := run_findModule h t
  have hurun := run_findModule h u
  rw [← ho.canImport name hm, ho.canImport_eq] at htrun
  rw [ho.canImport_eq] at hurun
  split at htrun
  · rename_i hfound
    rw [if_pos hfound] at hurun
    obtain ⟨r, htrun⟩ := htrun
    obtain ⟨q, hurun⟩ := hurun
    rw [htrun, hurun]
    exact ⟨.done ho hfound, refl_of Kept t⟩
  · rename_i hmissing
    rw [if_neg hmissing] at hurun
    rw [htrun, hurun]
    exact Along.fail rfl ho

/-- An imported name is bound to a module in both runs. -/
theorem along_bindModule (hname : name ∈ b.imports) (r q : ModuleRef) :
    Along Anything b (fun _ _ => True) (bindName 0 name (.module r))
      (bindName (0 + b.frames) name (.module q)) := by
  have hspecial : name ∉ specialNames := fun hmem => not_mem_imports_of_special hmem hname
  refine Along.get.bind fun s s' ho => ?_
  have hf := ho.frames 0
  dsimp only
  rw [hf.home_eq (.inl rfl), hf.home_eq (.inr rfl), hf.className, ho.root.2.className]
  exact along_setVar 0 hspecial ⟨rfl, .inr ⟨hname, rfl, rfl⟩⟩

/-- Simple imports end in the same way, and go on only if they are possible. -/
theorem along_execute_importNames (m : Machine) {names : List Alias}
    (h : ∀ a ∈ names, a.isSimple = true ∧ a.name ∈ b.modules ∧ a.bound ∈ b.imports) :
    Along Anything b (fun f g => BothNext f g ∧ ∀ a ∈ names, b.canImport a.name = true)
      (execute m 0 (.importNames names)) (execute m (0 + b.frames) (.importNames names)) := by
  simp only [execute]
  refine Along.bind (R := fun _ _ => ∀ a ∈ names, b.canImport a.name = true)
    (.forM (R := fun a c => c = a ∧ a ∈ names) ?_ ?_) fun _ _ hfound => .pure ⟨⟨rfl, rfl⟩, hfound⟩
  · rintro a _ ⟨hc, ha⟩
    cases hc
    obtain ⟨hsimple, hmodule, hbound⟩ := h a ha
    have hundotted : isUndotted a.name = true := (Bool.and_eq_true _ _ ▸ hsimple).1
    refine (along_findModule hundotted hmodule).anything.bind fun r q hfound => ?_
    cases hname : a.asName with
    | some n =>
      rw [Alias.bound, hname] at hbound
      exact (along_bindModule hbound r q).mono fun _ _ _ => hfound
    | none =>
      have htop : topModule a.name = findModule a.name := by
        rw [topModule, dottedParts_of_isUndotted hundotted]
        rfl
      rw [htop]
      exact (along_findModule hundotted hmodule).anything.bind fun r q _ =>
        (along_bindModule hbound r q).mono fun _ _ _ => hfound
  · exact List.forall₂_same.mpr fun a ha => ⟨rfl, ha⟩

end Imports

/-! ## Statements -/

section Statements

variable (m : Machine)

/-- Statements one after the other, given each of them and what it shows when it comes to its end. -/
theorem along_executeAll {k : Nat} {body : List Stmt} {P : Stmt → Prop}
    (h : ∀ s ∈ body, Along Anything b (fun f g => BothNext f g ∧ P s) (execute m k s)
      (execute m (k + b.frames) s)) :
    Along Anything b (fun f g => BothNext f g ∧ ∀ s ∈ body, P s) (executeAll m k body)
      (executeAll m (k + b.frames) body) := by
  induction body with
  | nil =>
    simp only [executeAll]
    exact .pure ⟨⟨rfl, rfl⟩, nofun⟩
  | cons s body ih =>
    rw [List.forall_mem_cons] at h
    simp only [executeAll]
    refine h.1.bind ?_
    rintro _ _ ⟨⟨rfl, rfl⟩, hs⟩
    exact (ih h.2).mono fun _ _ ⟨hnext, hbody⟩ => ⟨hnext, List.forall_mem_cons.mpr ⟨hs, hbody⟩⟩

/-- A simple member of a class is run in both. -/
theorem along_execute_member (k : Nat) {s : Stmt} (h : s.isSimpleMember b.imports = true) :
    Along Anything b BothNext (execute m k s) (execute m (k + b.frames) s) := by
  unfold Stmt.isSimpleMember at h
  split at h
  · exact along_execute_functionDef m k h
  · simp only [execute, evaluate, pure_bind]
    exact .pure ⟨rfl, rfl⟩
  · simp only [execute]
    exact .pure ⟨rfl, rfl⟩
  · cases h

/-- A statement of a simple file, which comes to its end if all that it imports is found. -/
theorem along_execute {s : Stmt} (h : s.isSimple b.imports = true)
    (himports : ∀ a ∈ s.imports, a.name ∈ b.modules ∧ a.bound ∈ b.imports) :
    Along Anything b (fun f g => BothNext f g ∧ ∀ a ∈ s.imports, b.canImport a.name = true)
      (execute m 0 s) (execute m (0 + b.frames) s) := by
  unfold Stmt.isSimple at h
  split at h
  · rw [List.all_eq_true] at h
    exact along_execute_importNames m fun a ha => ⟨h a ha, himports a ha⟩
  · rename_i c
    have hmembers : ∀ s ∈ c.body, s.isSimpleMember b.imports = true := by
      rw [ClassDef.isSimple, Bool.and_eq_true, List.all_eq_true] at h
      exact h.2
    have hbody (i : Nat) := along_executeAll (b := b) (P := fun _ => True) m (k := i) fun s hs =>
      (along_execute_member m i (hmembers s hs)).mono fun _ _ hnext => ⟨hnext, trivial⟩
    refine (along_execute_classDef m h fun i => (hbody i).mono fun _ _ hnext => hnext.1).mono ?_
    exact fun _ _ hnext => ⟨hnext, nofun⟩
  · rename_i himport hclass
    refine (along_execute_member m 0 h).mono fun _ _ hnext => ⟨hnext, ?_⟩
    cases s with
    | importNames names => exact absurd rfl (himport names)
    | _ => exact nofun

end Statements

end Codebook.Live
