import Mathlib
import Codebook.Proofs.DefinedNames
import Codebook.Proofs.ExactOutline

/-!
# The names in the record of a file

A simple file without imports is run and described. Its record names the public functions and classes
that its statements define, and of each class the methods that are described, asynchronous ones among
them.

* `run_describeFunction`, `run_describeClass`, `run_describeModule`: a record names what it describes.
* `IsClass.exists_method_iff`, `Settled.exists_function_iff`: what is described was defined by the file,
  and the other way round.
* `lists_live`: the record of a file, where the names of its definitions are distinct.
-/

namespace Codebook

section Related

variable {α β : Type} {R : α → β → Prop} {as : List α} {bs : List β} (h : List.Forall₂ R as bs)
include h

/-- Every item on the left has one on the right. -/
theorem exists_of_mem_left {a : α} (ha : a ∈ as) : ∃ b ∈ bs, R a b := by
  induction h with
  | nil => cases ha
  | cons hab _ ih =>
    rcases List.mem_cons.mp ha with rfl | ha
    · exact ⟨_, List.mem_cons_self, hab⟩
    · obtain ⟨b, hb, hab⟩ := ih ha
      exact ⟨b, List.mem_cons_of_mem _ hb, hab⟩

/-- Every item on the right has one on the left. -/
theorem exists_of_mem_right {b : β} (hb : b ∈ bs) : ∃ a ∈ as, R a b :=
  exists_of_mem_left h.flip hb

/-- What one side has in common with the other it has in both lists. -/
theorem exists_mem_iff_of_forall₂ {P : α → Prop} {Q : β → Prop} (hPQ : ∀ a b, R a b → (P a ↔ Q b)) :
    (∃ a ∈ as, P a) ↔ ∃ b ∈ bs, Q b := by
  constructor
  · rintro ⟨a, ha, hP⟩
    obtain ⟨b, hb, hab⟩ := exists_of_mem_left h ha
    exact ⟨b, hb, (hPQ a b hab).mp hP⟩
  · rintro ⟨b, hb, hQ⟩
    obtain ⟨a, ha, hab⟩ := exists_of_mem_right h hb
    exact ⟨a, ha, (hPQ a b hab).mpr hQ⟩

end Related

end Codebook

namespace Codebook.Live

open Outline Source

variable {b : Base} {t t' : Store}

/-! ## Members -/

/-- A name with a value is in the table. -/
theorem Table.mem_of_get? {vars : Table} {name : String} {v : Value} (h : vars.get? name = some v) :
    name ∈ vars.map (·.1) := by
  by_contra hn
  have hnone : vars.get? name = none := by
    refine List.lookup_eq_none_iff.mpr fun i hi => bne_iff_ne.mpr ?_
    rintro rfl
    exact hn (List.mem_map_of_mem hi)
  rw [hnone] at h
  cases h

/-- The own members of a module are its own variables of the kind. -/
theorem mem_ownAmong {α : Type} {m : Module} {kind : Value → Option α} {a : α} :
    a ∈ ownAmong t m kind ↔ ∃ n v, (t.frame m.frame).vars.get? n = some v ∧
      isOwn t m.name n v = true ∧ kind v = some a := by
  simp only [ownAmong, List.mem_filterMap, mem_sortedNames, Option.bind_eq_some_iff]
  constructor
  · rintro ⟨n, -, v, hv, ha⟩
    split at ha
    · exact ⟨n, v, hv, ‹_›, ha⟩
    · cases ha
  · rintro ⟨n, v, hv, hown, ha⟩
    exact ⟨n, Table.mem_of_get? hv, v, hv, by rw [if_pos hown, ha]⟩

/-! ## Records of one run -/

/-- The results of a run for each item of a list, where each step keeps what the steps rest on. -/
theorem Run.forall₂_of_mapM {α β : Type} {I : Store → Prop} {Q : α → β → Prop} {f : α → Run β}
    {as : List α} {rs : List β}
    (hf : ∀ a ∈ as, ∀ {t t' : Store} {r : β}, I t → (f a).run.run t = (.ok r, t') → I t' ∧ Q a r)
    (ht : I t) (hrun : (as.mapM f).run.run t = (.ok rs, t')) :
    I t' ∧ List.Forall₂ Q as rs := by
  induction as generalizing t rs with
  | nil =>
    rw [List.mapM_nil] at hrun
    cases hrun
    exact ⟨ht, .nil⟩
  | cons a as ih =>
    rw [List.mapM_cons] at hrun
    obtain ⟨r, t₁, hr, hrun⟩ := Run.of_bind_ok hrun
    obtain ⟨rs', t₂, hrs, hrun⟩ := Run.of_bind_ok hrun
    cases hrun
    rw [List.forall_mem_cons] at hf
    obtain ⟨ht₁, hq⟩ := hf.1 ht hr
    obtain ⟨ht₂, hqs⟩ := ih hf.2 ht₁ hrs
    exact ⟨ht₂, .cons hq hqs⟩

/-- Functions stay while nothing but objects comes up. -/
theorem Kept.function_eq (h : Kept t t') : t'.function = t.function := by
  unfold Store.function
  rw [h.functions]

/-- So do the names of classes. -/
theorem Kept.className_eq (h : Kept t t') (c : ClassRef) : t'.className c = t.className c := by
  cases c with
  | known name => rfl
  | defined i => simp only [Store.className, Store.classObject, h.classes]

/-- The record names the function. -/
def NamesFunction (t : Store) (v : Value) (r : FunctionRecord) : Prop :=
  functionName? t v = some r.name

/-- The record has the name of the function. -/
theorem NamesFunction.eq_some_iff {v : Value} {r : FunctionRecord} (h : NamesFunction t v r)
    {n : String} : functionName? t v = some n ↔ r.name = n := by
  rw [NamesFunction] at h
  rw [h, Option.some.injEq]

/-- The record of a function names it, and nothing but objects comes up. -/
theorem run_describeFunction (ht : Fits b t) {path : String} {i : Nat} {r : FunctionRecord}
    (hrun : (describeFunction path (.function i)).run.run t = (.ok r, t')) :
    Kept t t' ∧ NamesFunction t (.function i) r := by
  have hkept := ((along_describeFunction path i).fits ht hrun).2.2
  unfold describeFunction at hrun
  obtain ⟨_, _, hget, hrun⟩ := Run.of_bind_ok hrun
  cases hget
  obtain ⟨signature, _, -, hrun⟩ := Run.of_bind_ok hrun
  obtain ⟨_, _, -, hrun⟩ := Run.of_bind_ok hrun
  obtain ⟨parameters, _, -, hrun⟩ := Run.of_bind_ok hrun
  obtain ⟨returnType, t₁, -, hrun⟩ := Run.of_bind_ok hrun
  obtain ⟨_, _, hget, hrun⟩ := Run.of_bind_ok hrun
  cases hget
  cases hdoc : (Docstring.parse? (t.doc? (.function i))).returns with
  | none =>
    rw [hdoc] at hrun
    cases hrun
  | some result =>
    rw [hdoc] at hrun
    cases hrun
    refine ⟨hkept, ?_⟩
    rw [NamesFunction, functionName?, ← hkept.function_eq]

/-- The methods of a class that are described. -/
def describedMethods (t : Store) (c : ClassRef) : List (String × Value) :=
  (methodsOf t c).filter (isDescribed ·.1)

/-- The record names the class and its methods. -/
structure NamesClass (t : Store) (c : ClassRef) (r : ClassRecord) : Prop where
  name : r.name = t.className c
  methods : List.Forall₂ (fun m f => NamesFunction t m.2 f) (describedMethods t c) r.methods

/-- A record names the function also as it was before. -/
theorem NamesFunction.of_kept (h : Kept t t') {v : Value} {r : FunctionRecord} (hr : NamesFunction t' v r) :
    NamesFunction t v r := by
  unfold NamesFunction functionName? at hr ⊢
  rw [h.function_eq] at hr
  exact hr

/-- A method is a function that is found as a member. -/
theorem exists_function_of_mem_methodsOf {c : ClassRef} {m : String × Value}
    (h : m ∈ methodsOf t c) : ∃ i, m.2 = .function i ∧ t.member? (.cls c) m.1 = some (.function i) := by
  obtain ⟨name, -, hm⟩ := List.mem_filterMap.mp h
  split at hm
  · rename_i i hi
    cases hm
    exact ⟨i, rfl, hi⟩
  · cases hm

/-- The record of a class names it, and nothing but objects comes up. -/
theorem run_describeClass (ht : Fits b t) {path : String} {c : ClassRef} {r : ClassRecord}
    (hrun : (describeClass path c).run.run t = (.ok r, t')) : Kept t t' ∧ NamesClass t c r := by
  have hkept := ((along_describeClass path c).fits ht hrun).2.2
  unfold describeClass at hrun
  obtain ⟨_, _, hget, hrun⟩ := Run.of_bind_ok hrun
  cases hget
  obtain ⟨_, _, hget, hrun⟩ := Run.of_bind_ok hrun
  cases hget
  obtain ⟨methods, t₁, hmethods, hrun⟩ := Run.of_bind_ok hrun
  obtain ⟨_, _, hget, hrun⟩ := Run.of_bind_ok hrun
  cases hget
  cases hrun
  refine ⟨hkept, hkept.className_eq c, ?_⟩
  refine (Run.forall₂_of_mapM (I := Kept t) (fun m hm s s' f hs hrun => ?_) (refl_of Kept t) hmethods).2
  obtain ⟨i, hi, -⟩ := exists_function_of_mem_methodsOf (List.mem_of_mem_filter hm)
  rw [hi] at hrun ⊢
  obtain ⟨hs', hf⟩ := run_describeFunction (ht.of_kept hs) hrun
  exact ⟨trans_of Kept hs hs', hf.of_kept hs⟩

/-- The functions of a module that are described. -/
def ownFunctions (t : Store) (m : Module) : List Value :=
  ownAmong t m fun
    | .function id => some (.function id)
    | _ => none

/-- The classes of a module that are described. -/
def ownClasses (t : Store) (m : Module) : List ClassRef :=
  ownAmong t m fun
    | .cls c => some c
    | _ => none

/-- The own functions of a module are functions. -/
theorem exists_function_of_mem_ownFunctions {m : Module} {v : Value} (h : v ∈ ownFunctions t m) :
    ∃ i, v = .function i := by
  obtain ⟨n, w, -, -, hv⟩ := mem_ownAmong.mp h
  split at hv
  · cases hv
    exact ⟨_, rfl⟩
  · cases hv

/-- The record of a module names the functions and classes that are its own. The classes are looked
for when the functions have been described. -/
theorem run_describeModule (ht : Fits b t) {path : Path} {suggested : Option String} {r : ModuleRecord}
    (hrun : (describeModule path ⟨b.name, 0⟩ suggested).run.run t = (.ok r, t')) :
    List.Forall₂ (NamesFunction t) (ownFunctions t ⟨b.name, 0⟩) r.functions ∧
      ∃ t₁, Kept t t₁ ∧ List.Forall₂ (fun c k => ∃ t₂, Kept t₁ t₂ ∧ NamesClass t₂ c k)
        (ownClasses t₁ ⟨b.name, 0⟩) r.classes := by
  have hdir {s : Store} (hs : Fits b s) : (s.frame 0).vars.get? "__dir__" = none := by
    obtain ⟨u, ho⟩ := hs
    exact (ho.frames 0).dir
  unfold describeModule at hrun
  obtain ⟨_, _, hget, hrun⟩ := Run.of_bind_ok hrun
  cases hget
  obtain ⟨_, _, hmembers, hrun⟩ := Run.of_bind_ok hrun
  rw [run_ownMembers _ (hdir ht)] at hmembers
  cases hmembers
  obtain ⟨functions, t₁, hfunctions, hrun⟩ := Run.of_bind_ok hrun
  obtain ⟨hkept, hfunctions⟩ := Run.forall₂_of_mapM (I := Kept t) (Q := NamesFunction t)
    (fun v hv s s' f hs hrun => by
      obtain ⟨i, rfl⟩ := exists_function_of_mem_ownFunctions hv
      obtain ⟨hs', hf⟩ := run_describeFunction (ht.of_kept hs) hrun
      exact ⟨trans_of Kept hs hs', hf.of_kept hs⟩) (refl_of Kept t) hfunctions
  have ht₁ := ht.of_kept hkept
  obtain ⟨_, _, hmembers, hrun⟩ := Run.of_bind_ok hrun
  rw [run_ownMembers _ (hdir ht₁)] at hmembers
  cases hmembers
  obtain ⟨classes, t₂, hclasses, hrun⟩ := Run.of_bind_ok hrun
  obtain ⟨-, hclasses⟩ := Run.forall₂_of_mapM (I := Kept t₁)
    (Q := fun c k => ∃ t₂, Kept t₁ t₂ ∧ NamesClass t₂ c k)
    (fun c _ s s' k hs hrun => by
      obtain ⟨hs', hk⟩ := run_describeClass (ht₁.of_kept hs) hrun
      exact ⟨trans_of Kept hs hs', s, hs, hk⟩) (refl_of Kept t₁) hclasses
  obtain ⟨_, _, -, hrun⟩ := Run.of_bind_ok hrun
  cases hrun
  exact ⟨hfunctions, t₁, hkept, hclasses⟩

/-- The methods of a class are its members that are functions. -/
theorem mem_methodsOf {c : ClassRef} {m : String × Value} :
    m ∈ methodsOf t c ↔ ∃ i, m.2 = .function i ∧ t.member? (.cls c) m.1 = some (.function i) := by
  refine ⟨exists_function_of_mem_methodsOf, ?_⟩
  obtain ⟨name, v⟩ := m
  rintro ⟨i, rfl, hi⟩
  have hfound : ∃ p, t.findAttribute? c name = some p := by
    cases hfind : t.findAttribute? c name with
    | some p => exact ⟨p, rfl⟩
    | none => simp [Store.member?, hfind] at hi
  obtain ⟨p, hp⟩ := hfound
  obtain ⟨d, hd, hw⟩ := List.exists_of_findSome?_eq_some hp
  obtain ⟨w, hw, -⟩ := Option.map_eq_some_iff.mp hw
  refine List.mem_filterMap.mpr ⟨name, ?_, ?_⟩
  · exact mem_sortedNames.mpr (List.mem_flatMap.mpr ⟨d, hd, Table.mem_of_get? hw⟩)
  · dsimp only at hi
    rw [hi]

section Classes

variable {k : Source.Class} {c : ClassRef} (h : IsClass b t (.classDef k) (.cls c))
include h

/-- A class has the name of its definition. -/
theorem IsClass.className : t.className c = k.name := by
  cases h with
  | intro size name home order vars => exact name

/-- A class holds what its body defines. -/
theorem IsClass.holds : Holds (IsFunction b t) k.body (t.classVars c) := by
  cases h with
  | intro size name home order vars => exact vars

/-- A described member of a class is one of its own. -/
theorem IsClass.findAttribute? {n : String} (hn : isDescribed n = true) :
    t.findAttribute? c n = ((t.classVars c).get? n).map (c, ·) := by
  have hobject : (t.classVars (.known "object")).get? n = none := by
    have hnames : ∀ m ∈ ["__module__", "__doc__"], isDescribed m = false := by decide +kernel
    refine List.lookup_eq_none_iff.mpr fun i hi => bne_iff_ne.mpr ?_
    rintro rfl
    have hi : i.1 ∈ ["__module__", "__doc__"] := List.mem_map_of_mem (f := Prod.fst) hi
    rw [hnames _ hi] at hn
    cases hn
  cases h with
  | @intro _ j size name home order vars =>
    unfold Store.findAttribute?
    rw [Store.order, order, List.findSome?_cons]
    cases (t.classVars (.defined j)).get? n with
    | some v => rfl
    | none =>
      rw [Option.map_none, List.findSome?_cons, hobject]
      rfl

/-- The methods of a class that are described are the functions in its body. -/
theorem IsClass.exists_method_iff {n : String} :
    (∃ m ∈ describedMethods t c, functionName? t m.2 = some n) ↔
      isDescribed n = true ∧ ∃ f, .functionDef f ∈ k.body ∧ f.name = n := by
  constructor
  · rintro ⟨⟨m, v⟩, hm, hn⟩
    obtain ⟨hm, hd⟩ := List.mem_filter.mp hm
    obtain ⟨i, rfl, hi⟩ := mem_methodsOf.mp hm
    rw [Store.member?, h.findAttribute? hd] at hi
    cases hv : (t.classVars c).get? m with
    | none =>
      rw [hv] at hi
      cases hi
    | some v =>
      obtain ⟨s, hs, hdefined, hfunction⟩ := h.holds.sound m v hv hd
      cases hfunction with
      | @intro f j size name home =>
        rw [hv] at hi
        cases hi
        cases hdefined
        rw [functionName?, name] at hn
        cases hn
        exact ⟨hd, f, hs, rfl⟩
  · rintro ⟨hd, f, hf, rfl⟩
    obtain ⟨v, hv⟩ := h.holds.complete _ hf f.name rfl hd
    obtain ⟨s, -, hs, hfunction⟩ := h.holds.sound _ v hv hd
    cases hfunction with
    | @intro g i size name home =>
      have hmember : t.member? (.cls c) f.name = some (.function i) := by
        rw [Store.member?, h.findAttribute? hd, hv]
        rfl
      refine ⟨(f.name, .function i), ?_, ?_⟩
      · exact List.mem_filter.mpr ⟨mem_methodsOf.mpr ⟨i, rfl, hmember⟩, hd⟩
      · rw [functionName?, name]
        exact hs

end Classes

/-! ## Modules -/

/-- The file has run to its end and nothing has been changed since. -/
structure Settled (b : Base) (body : List Stmt) (t : Store) : Prop where
  fits : Fits b t
  holds : Holds (IsDefined b t) body (t.frame 0).vars

/-- A module stays settled while nothing but objects comes up. -/
theorem Settled.of_kept {body : List Stmt} (h : Settled b body t) (hk : Kept t t') :
    Settled b body t' where
  fits := h.fits.of_kept hk
  holds := by
    have hframe : t'.frame 0 = t.frame 0 := by simp only [Store.frame, hk.frames]
    rw [hframe]
    exact h.holds.mono fun _ _ hv => lasting_isDefined.grows (.of_eq hk.functions hk.classes) hv

/-- What a public statement has made belongs to the module. -/
theorem IsDefined.isOwn {s : Stmt} {n : String} {v : Value} (hv : IsDefined b t s v)
    (hn : isPublic n = true) : isOwn t b.name n v = true := by
  have hsame : (Value.text b.name).same (.text b.name) = true := by simp [Value.same]
  unfold Live.isOwn
  rw [hn, Bool.true_and]
  rcases hv with hv | hv
  · cases hv with
    | intro size name home =>
      dsimp only
      rw [home]
      exact hsame
  · cases hv with
    | @intro k i size name home order vars =>
      have hclass : t.classHome (.defined i) = .text b.name :=
        congrArg (Option.getD · Value.none) home
      dsimp only
      rw [hclass]
      exact hsame

/-- Own members have public names. -/
theorem isPublic_of_isOwn {module n : String} {v : Value} (h : isOwn t module n v = true) :
    isPublic n = true := by
  unfold Live.isOwn at h
  exact (Bool.and_eq_true _ _ ▸ h).1

/-- Public names are described. -/
theorem isDescribed_of_isPublic {n : String} (h : isPublic n = true) : isDescribed n = true := by
  rw [isDescribed, h]
  rfl

/-- Statements that define different names are told apart by these. -/
theorem eq_of_defined {body : List Stmt} (hnames : (body.filterMap Stmt.defined?).Nodup)
    {s s' : Stmt} {n : String} (hs : s ∈ body) (hs' : s' ∈ body) (hn : s.defined? = some n)
    (hn' : s'.defined? = some n) : s = s' := by
  by_contra hne
  have hpairwise := List.pairwise_filterMap.mp hnames
  have hsymm : Std.Symm fun a a' : Stmt => ∀ x, a.defined? = some x → ∀ y, a'.defined? = some y → x ≠ y :=
    ⟨fun _ _ h x hx y hy => (h y hy x hx).symm⟩
  exact hpairwise.forall hs hs' hne n hn n hn' rfl

section Modules

variable {body : List Stmt} (h : Settled b body t)
include h

/-- What is described of the module was made by a public statement. -/
theorem Settled.exists_statement {n : String} {v : Value} (hv : (t.frame 0).vars.get? n = some v)
    (hown : Live.isOwn t b.name n v = true) :
    isPublic n = true ∧ ∃ s ∈ body, s.defined? = some n ∧ IsDefined b t s v := by
  have hn := isPublic_of_isOwn hown
  exact ⟨hn, h.holds.sound n v hv (isDescribed_of_isPublic hn)⟩

variable (hnames : (body.filterMap Stmt.defined?).Nodup)
include hnames

/-- What a public statement defines is described. -/
theorem Settled.exists_value {s : Stmt} {n : String} (hs : s ∈ body) (hn : s.defined? = some n)
    (hpublic : isPublic n = true) :
    ∃ v, (t.frame 0).vars.get? n = some v ∧ Live.isOwn t b.name n v = true ∧ IsDefined b t s v := by
  have hd := isDescribed_of_isPublic hpublic
  obtain ⟨v, hv⟩ := h.holds.complete s hs n hn hd
  obtain ⟨s', hs', hn', hdefined⟩ := h.holds.sound n v hv hd
  cases eq_of_defined hnames hs hs' hn hn'
  exact ⟨v, hv, hdefined.isOwn hpublic, hdefined⟩

/-- The own functions are the public ones that the statements define. -/
theorem Settled.exists_function_iff {n : String} :
    (∃ v ∈ ownFunctions t ⟨b.name, 0⟩, functionName? t v = some n) ↔
      isPublic n = true ∧ ∃ f, .functionDef f ∈ body ∧ f.name = n := by
  constructor
  · rintro ⟨v, hv, hn⟩
    obtain ⟨i, rfl⟩ := exists_function_of_mem_ownFunctions hv
    obtain ⟨m, w, hw, hown, hkind⟩ := mem_ownAmong.mp hv
    split at hkind
    · cases hkind
      obtain ⟨hpublic, s, hs, hm, hdefined | hdefined⟩ := h.exists_statement hw hown
      · cases hdefined with
        | @intro f _ size name home =>
          cases hm
          rw [functionName?, name] at hn
          cases hn
          exact ⟨hpublic, f, hs, rfl⟩
      · cases hdefined
    · cases hkind
  · rintro ⟨hpublic, f, hf, rfl⟩
    obtain ⟨v, hv, hown, hdefined⟩ := h.exists_value hnames hf rfl hpublic
    rcases hdefined with hdefined | hdefined
    · cases hdefined with
      | @intro _ i size name home =>
        exact ⟨.function i, mem_ownAmong.mpr ⟨f.name, _, hv, hown, rfl⟩, by rw [functionName?, name]⟩
    · cases hdefined

omit hnames in
/-- An own class is a public one that a statement defines. -/
theorem Settled.exists_class {c : ClassRef} (hc : c ∈ ownClasses t ⟨b.name, 0⟩) :
    ∃ k, .classDef k ∈ body ∧ isPublic k.name = true ∧ IsClass b t (.classDef k) (.cls c) := by
  obtain ⟨m, w, hw, hown, hkind⟩ := mem_ownAmong.mp hc
  split at hkind
  · cases hkind
    obtain ⟨hpublic, s, hs, hm, hdefined | hdefined⟩ := h.exists_statement hw hown
    · cases hdefined
    · have hclass := hdefined
      cases hdefined with
      | @intro k _ size name home order vars =>
        cases hm
        exact ⟨k, hs, hpublic, hclass⟩
  · cases hkind

/-- A public class that a statement defines is an own class. -/
theorem Settled.exists_mem_ownClasses {k : Source.Class} (hk : .classDef k ∈ body)
    (hpublic : isPublic k.name = true) :
    ∃ c ∈ ownClasses t ⟨b.name, 0⟩, IsClass b t (.classDef k) (.cls c) := by
  obtain ⟨v, hv, hown, hdefined | hdefined⟩ := h.exists_value hnames hk rfl hpublic
  · cases hdefined
  · have hclass := hdefined
    cases hdefined with
    | @intro _ i size name home order vars =>
      exact ⟨.defined i, mem_ownAmong.mpr ⟨k.name, _, hv, hown, rfl⟩, hclass⟩

end Modules

end Codebook.Live

/-! ## The names of a record -/

namespace Codebook

namespace ModuleRecord

/-- The names of the functions of a module. -/
def functionNames (m : ModuleRecord) : Set String :=
  {n | ∃ f ∈ m.functions, f.name = n}

/-- A record names its functions. -/
@[simp] theorem mem_functionNames {m : ModuleRecord} {n : String} :
    n ∈ m.functionNames ↔ ∃ f ∈ m.functions, f.name = n :=
  Iff.rfl

/-- The names of the classes of a module. -/
def classNames (m : ModuleRecord) : Set String :=
  {n | ∃ c ∈ m.classes, c.name = n}

/-- The names of the methods of the classes of the given name. -/
def methodNames (m : ModuleRecord) (c : String) : Set String :=
  {n | ∃ k ∈ m.classes, k.name = c ∧ ∃ f ∈ k.methods, f.name = n}

/-- The records name the same functions, classes and methods. -/
structure SameNames (m m' : ModuleRecord) : Prop where
  functions : m.functionNames = m'.functionNames
  classes : m.classNames = m'.classNames
  methods : ∀ c, m.methodNames c = m'.methodNames c

end ModuleRecord

namespace Inspection

open Live Outline Source

/-- The record names the class, and of its methods those that are described and listed. -/
structure Describes (listed : Source.Function → Prop) (k : Source.Class) (r : ClassRecord) : Prop where
  name : r.name = k.name
  methods : ∀ n, (∃ f ∈ r.methods, f.name = n) ↔
    isDescribed n = true ∧ ∃ f, .functionDef f ∈ k.body ∧ listed f ∧ f.name = n

/-- The record names the public functions and classes that the statements define, of the functions
those that are listed. -/
structure Lists (listed : Source.Function → Prop) (body : List Stmt) (m : ModuleRecord) : Prop where
  functions : ∀ n, n ∈ m.functionNames ↔
    isPublic n = true ∧ ∃ f, .functionDef f ∈ body ∧ listed f ∧ f.name = n
  classes : ∀ r ∈ m.classes, ∃ k, .classDef k ∈ body ∧ isPublic k.name = true ∧ Describes listed k r
  records : ∀ k, .classDef k ∈ body → isPublic k.name = true → ∃ r ∈ m.classes, Describes listed k r

section Lists

variable {listed : Source.Function → Prop} {body : List Stmt} {m : ModuleRecord}
  (h : Lists listed body m)
include h

/-- The classes that are named are the public ones that are defined. -/
theorem Lists.mem_classNames {n : String} :
    n ∈ m.classNames ↔ isPublic n = true ∧ ∃ k, .classDef k ∈ body ∧ k.name = n := by
  constructor
  · rintro ⟨r, hr, rfl⟩
    obtain ⟨k, hk, hpublic, hdescribes⟩ := h.classes r hr
    rw [hdescribes.name]
    exact ⟨hpublic, k, hk, rfl⟩
  · rintro ⟨hpublic, k, hk, rfl⟩
    obtain ⟨r, hr, hdescribes⟩ := h.records k hk hpublic
    exact ⟨r, hr, hdescribes.name⟩

/-- The methods that are named are those of public classes. -/
theorem Lists.mem_methodNames {c n : String} :
    n ∈ m.methodNames c ↔ ∃ k, .classDef k ∈ body ∧ isPublic k.name = true ∧ k.name = c ∧
      isDescribed n = true ∧ ∃ f, .functionDef f ∈ k.body ∧ listed f ∧ f.name = n := by
  constructor
  · rintro ⟨r, hr, rfl, hmethod⟩
    obtain ⟨k, hk, hpublic, hdescribes⟩ := h.classes r hr
    exact ⟨k, hk, hpublic, hdescribes.name.symm, (hdescribes.methods n).mp hmethod⟩
  · rintro ⟨k, hk, hpublic, rfl, hmethod⟩
    obtain ⟨r, hr, hdescribes⟩ := h.records k hk hpublic
    exact ⟨r, hr, hdescribes.name, (hdescribes.methods n).mpr hmethod⟩

end Lists

section Live

variable {d : Disk} {path : Path} {code : String} {body : List Stmt} {s t : Store} {r : ModuleRecord}
  (hpy : path.toString.endsWith ".py" = true) (hstatements : statementsOf d path = some body)
  (hsimple : isSimpleBody body = true) (himports : importsIn body = [])
  (hlive : (live d path code).run.run s = (.ok r, t))
include hpy hstatements hsimple himports hlive

/-- What a simple file without imports has left behind when it is described. -/
theorem exists_settled : ∃ b t₁, Settled b body t₁ ∧
    List.Forall₂ (NamesFunction t₁) (ownFunctions t₁ ⟨b.name, 0⟩) r.functions ∧
    ∃ t₂, Kept t₁ t₂ ∧ List.Forall₂ (fun c k => ∃ t₃, Kept t₂ t₃ ∧ NamesClass t₃ c k)
      (ownClasses t₂ ⟨b.name, 0⟩) r.classes := by
  have hfile : isSimpleFile d path = true := by rw [isSimpleFile, hstatements]; exact hsimple
  have haliases : aliases d path = [] := by rw [aliases, hstatements]; exact himports
  have hnone : ∀ m ∈ importedBy d path,
      (opened d path s).canImport m = (opened d path (bare [])).canImport m := by
    simp [importedBy, haliases]
  -- the same record is made in a session that holds nothing
  have hends := @ends_live d path code s hfile hpy (unshadowed_of_live hpy hlive) [] hnone
  rw [hlive, run_live hpy (unshadowed_bare [])] at hends
  obtain ⟨t', hbare⟩ : ∃ t', (liveFrom d path code 0).run.run (opened d path (bare [])) = (.ok r, t') := by
    change Ends _ _ ((liveFrom d path code 0).run.run _) _ at hends
    generalize (liveFrom d path code 0).run.run (opened d path (bare [])) = q at hends
    cases hends with
    | done ho hr => exact ⟨_, by rw [hr.1]⟩
  obtain ⟨m, t₁, hfill, hdescribe⟩ := Run.of_bind_ok hbare
  have hfits : Fits (baseOf hfile s) (opened d path (bare [])) := ⟨_, over_opened hfile hnone⟩
  have hbody : ∀ st ∈ body, st.isSimple (baseOf hfile s).imports = true ∧ st.imports = [] :=
    fun st hst => ⟨(isSimple_of_isSimpleFile hfile hstatements hst).1,
      List.flatMap_eq_nil_iff.mp himports st hst⟩
  obtain ⟨rfl, hran⟩ := ran_fill hbody hstatements hfits hfill
  have hstart : Holds (IsDefined (baseOf hfile s) (opened d path (bare []))) []
      ((opened d path (bare [])).frame 0).vars := by
    refine .start fun n v hv => ?_
    have hnames : ∀ n ∈ ["__name__", "__doc__", "__package__", "__file__"], isDescribed n = false := by
      decide +kernel
    exact hnames n (Table.mem_of_get? hv)
  obtain ⟨hfunctions, t₂, hkept, hclasses⟩ := run_describeModule hran.fits hdescribe
  exact ⟨baseOf hfile s, t₁, ⟨hran.fits, hran.holds [] hstart⟩, hfunctions, t₂, hkept, hclasses⟩

/-- What is there after a file was run is what its statements define. -/
theorem lists_live (hnames : (body.filterMap Stmt.defined?).Nodup) : Lists (fun _ => True) body r := by
  obtain ⟨b, t₁, hsettled, hfunctions, t₂, hkept, hclasses⟩ :=
    exists_settled hpy hstatements hsimple himports hlive
  have hsettled₂ := hsettled.of_kept hkept
  have hdescribes {c : ClassRef} {k : Source.Class} {r : ClassRecord}
      (hclass : IsClass b t₂ (.classDef k) (.cls c)) (hr : ∃ t₃, Kept t₂ t₃ ∧ NamesClass t₃ c r) :
      Describes (fun _ => True) k r := by
    obtain ⟨t₃, hkept, hr⟩ := hr
    have hgrows : Grows t₂ t₃ := .of_eq hkept.functions hkept.classes
    have hclass : IsClass b t₃ (.classDef k) (.cls c) :=
      (lasting_isDefined.grows hgrows (.inr hclass)).resolve_left nofun
    refine ⟨hr.name.trans hclass.className, fun n => ?_⟩
    have hiff := hclass.exists_method_iff (n := n)
    rw [exists_mem_iff_of_forall₂ hr.methods fun m f hf => hf.eq_some_iff] at hiff
    simpa using hiff
  refine ⟨fun n => ?_, fun r hr => ?_, fun k hk hpublic => ?_⟩
  · have hiff := hsettled.exists_function_iff hnames (n := n)
    rw [exists_mem_iff_of_forall₂ hfunctions fun v f hf => hf.eq_some_iff] at hiff
    simpa using hiff
  · obtain ⟨c, hc, hr⟩ := exists_of_mem_right hclasses hr
    obtain ⟨k, hk, hpublic, hclass⟩ := hsettled₂.exists_class hc
    exact ⟨k, hk, hpublic, hdescribes hclass hr⟩
  · obtain ⟨c, hc, hclass⟩ := hsettled₂.exists_mem_ownClasses hnames hk hpublic
    obtain ⟨r, hr, hnamed⟩ := exists_of_mem_left hclasses hc
    exact ⟨r, hr, hdescribes hclass hnamed⟩

end Live

end Inspection

end Codebook
