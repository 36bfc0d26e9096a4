import Mathlib
import Codebook.Proofs.Sessions

/-!
# What a simple file defines

A simple file that imports nothing has run to its end. The variables of its module are then what its
statements have defined: every name that can be described is the name of a function or class of the
file, and is bound to what one of the statements of that name has made.

* `Fits`: the store is the first one of two that are alike, which is all that is asked of one run.
* `Holds made body vars`: the variables under names that are described are those that the statements
  define, by values that they have made (`IsFunction`, `IsClass`).
* `run_functionDef`, `run_classDef`: what one definition does to the store.
* `Ran` and `ran_executeAll`: what all statements of a body do, by induction over them.
* `ran_fill`: a file.
-/

namespace Codebook.Source

open Outline

/-- The name that a definition gives to what it defines. -/
def Stmt.defined? : Stmt → Option String
  | .functionDef f => some f.name
  | .classDef c => some c.name
  | _ => none

/-- A name with one underscore in front is not described. -/
theorem not_isDescribed_of_underscore {name : String} {c : Char} {cs : List Char} (hc : c ≠ '_')
    (h : name.toList = '_' :: c :: cs) : isDescribed name = false := by
  have hpublic : isPublic name = false := by
    rw [isPublic, h]
    rfl
  have hinit : name ≠ "__init__" := by
    rintro rfl
    injection h with _ h
    injection h with h _
    exact hc h.symm
  rw [isDescribed, hpublic, beq_false_of_ne hinit]
  rfl

/-- A described name is not kept apart. -/
theorem mangle_of_isDescribed (className : Option String) {name : String}
    (h : isDescribed name = true) : mangle className name = name := by
  have hkept : (name.startsWith "__" && !name.endsWith "__") = false := by
    rw [isDescribed, Bool.or_eq_true, beq_iff_eq] at h
    rcases h with h | rfl
    · rw [Bool.and_eq_false_iff]
      left
      rw [Bool.eq_false_iff]
      intro hstart
      rw [String.startsWith_eq_startsWith_toSlice, String.Slice.startsWith_string_iff,
        String.copy_toSlice] at hstart
      obtain ⟨cs, hcs⟩ := hstart
      rw [isPublic, ← hcs] at h
      cases h
    · decide +kernel
  cases className with
  | none => rfl
  | some c =>
    unfold mangle
    dsimp only
    rw [hkept]
    rfl

/-- A name that is described as it is kept is kept as it is. -/
theorem mangle_eq_of_isDescribed {className : Option String} {name : String}
    (h : isDescribed (mangle className name) = true) : mangle className name = name := by
  rcases mangle_eq_self_or className name with heq | ⟨c, cs, hc, hm⟩
  · exact heq
  · rw [not_isDescribed_of_underscore hc hm] at h
    cases h

end Codebook.Source

namespace Codebook.Live

open Outline Source

variable {b : Base} {s t t' : Store}

/-! ## One of the two sessions -/

/-- The store holds what a simple file has made so far. -/
def Fits (b : Base) (t : Store) : Prop :=
  ∃ u, Over b t u

/-- A store stays of this kind while nothing but objects comes up. -/
theorem Fits.of_kept (h : Fits b t) (hk : Kept t t') : Fits b t' := by
  obtain ⟨u, ho⟩ := h
  exact ⟨u, ho.of_kept hk (refl_of Kept u)⟩

/-- The first body is that of the module. -/
theorem Fits.root (h : Fits b t) : 0 < t.frames.size ∧ IsRoot b.name (t.frame 0) := by
  obtain ⟨u, ho⟩ := h
  exact ho.root

/-- A run that has a companion leaves a store of the same kind behind. -/
theorem Along.fits {K : Store → Store → Prop} {α β : Type} {R : α → β → Prop} {x : Run α} {y : Run β}
    (h : Along K b R x y) (ht : Fits b t) {a : α} (hx : x.run.run t = (.ok a, t')) :
    Fits b t' ∧ (∃ c, R a c) ∧ K t t' := by
  obtain ⟨u, ho⟩ := ht
  obtain ⟨he, hk⟩ := h ho
  rw [hx] at he hk
  generalize y.run.run u = q at he
  cases he with
  | done ho hac => exact ⟨⟨_, ho⟩, ⟨_, hac⟩, hk⟩

/-! ## Tables -/

/-- The functions and classes of a store stay what they are. -/
structure Grows (s t : Store) : Prop where
  functions : ∀ i < s.functions.size, i < t.functions.size ∧ t.function i = s.function i
  classes : ∀ i < s.classes.size, i < t.classes.size ∧ t.classObject i = s.classObject i

instance : IsPreorder Store Grows where
  refl _ := ⟨fun _ hi => ⟨hi, rfl⟩, fun _ hi => ⟨hi, rfl⟩⟩
  trans _ _ _ h k := by
    refine ⟨fun i hi => ?_, fun i hi => ?_⟩
    · obtain ⟨hi, h⟩ := h.functions i hi
      obtain ⟨hi, k⟩ := k.functions i hi
      exact ⟨hi, k.trans h⟩
    · obtain ⟨hi, h⟩ := h.classes i hi
      obtain ⟨hi, k⟩ := k.classes i hi
      exact ⟨hi, k.trans h⟩

/-- Functions and classes that do not change stay. -/
theorem Grows.of_eq (hf : t.functions = s.functions) (hc : t.classes = s.classes) : Grows s t where
  functions i hi := ⟨hf ▸ hi, by simp only [Store.function, hf]⟩
  classes i hi := ⟨hc ▸ hi, by simp only [Store.classObject, hc]⟩

section Push

variable {i : Nat}

/-- The bodies of a store with one body changed. -/
theorem frame_of_modify {k : Nat} {F : Frame → Frame} (h : t.frames = s.frames.modify k F) :
    t.frame i = if i = k ∧ i < s.frames.size then F (s.frame i) else s.frame i := by
  rw [← Store.frame_modify]
  simp only [Store.frame, h]

/-- The bodies of a store with one more body. -/
theorem frame_of_push {f : Frame} (h : t.frames = s.frames.push f) :
    t.frame i = if i = s.frames.size then f else s.frame i := by
  rw [← Store.frame_push]
  simp only [Store.frame, h]

/-- The functions of a store with one more function. -/
theorem function_of_push {f : FunctionObject} (h : t.functions = s.functions.push f) :
    t.function i = if i = s.functions.size then f else s.function i := by
  rw [← Store.function_push]
  simp only [Store.function, h]

/-- The classes of a store with one more class. -/
theorem classObject_of_push {c : ClassObject} (h : t.classes = s.classes.push c) :
    t.classObject i = if i = s.classes.size then c else s.classObject i := by
  rw [← Store.classObject_push]
  simp only [Store.classObject, h]

end Push

/-- A new function leaves the others as they are. -/
theorem Grows.of_push_function {f : FunctionObject} (hf : t.functions = s.functions.push f)
    (hc : t.classes = s.classes) : Grows s t where
  functions i hi := by
    rw [function_of_push hf, if_neg hi.ne, hf, Array.size_push]
    exact ⟨Nat.lt_succ_of_lt hi, rfl⟩
  classes i hi := ⟨hc ▸ hi, by simp only [Store.classObject, hc]⟩

/-- A new class leaves the others as they are. -/
theorem Grows.of_push_class {c : ClassObject} (hf : t.functions = s.functions)
    (hc : t.classes = s.classes.push c) : Grows s t where
  functions i hi := ⟨hf ▸ hi, by simp only [Store.function, hf]⟩
  classes i hi := by
    rw [classObject_of_push hc, if_neg hi.ne, hc, Array.size_push]
    exact ⟨Nat.lt_succ_of_lt hi, rfl⟩

/-- The described names among some variables are those that statements define, and each of them has a
value that one of these statements has made. -/
structure Holds (made : Stmt → Value → Prop) (body : List Stmt) (vars : Table) : Prop where
  sound : ∀ n v, vars.get? n = some v → isDescribed n = true → ∃ s ∈ body, s.defined? = some n ∧ made s v
  complete : ∀ s ∈ body, ∀ n, s.defined? = some n → isDescribed n = true → ∃ v, vars.get? n = some v

namespace Holds

variable {made : Stmt → Value → Prop} {body : List Stmt} {vars : Table}

/-- Before any statement no described name has a value. -/
theorem start (h : ∀ n v, vars.get? n = some v → isDescribed n = false) : Holds made [] vars where
  sound n v hv hd := by
    rw [h n v hv] at hd
    cases hd
  complete := nofun

/-- What is made in one sense is made in a weaker one. -/
theorem mono (h : Holds made body vars) {made' : Stmt → Value → Prop}
    (hmade : ∀ s v, made s v → made' s v) : Holds made' body vars where
  sound n v hv hd := by
    obtain ⟨s, hs, hn, hm⟩ := h.sound n v hv hd
    exact ⟨s, hs, hn, hmade s v hm⟩
  complete := h.complete

/-- Only the described names count. -/
theorem congr (h : Holds made body vars) {vars' : Table}
    (hvars : ∀ n, isDescribed n = true → vars'.get? n = vars.get? n) : Holds made body vars' where
  sound n v hv hd := h.sound n v (hvars n hd ▸ hv) hd
  complete s hs n hn hd := by
    rw [hvars n hd]
    exact h.complete s hs n hn hd

/-- A definition gives its name a value. -/
theorem put (h : Holds made body vars) (className : Option String) {s : Stmt} {n : String} {v : Value}
    (hs : s.defined? = some n) (hv : made s v) :
    Holds made (body ++ [s]) (vars.put (mangle className n) v) where
  sound m w hm hd := by
    by_cases hmn : m = mangle className n
    · rw [hmn] at hm hd
      rw [Table.get?_put_self] at hm
      cases hm
      rw [hmn, mangle_eq_of_isDescribed hd]
      exact ⟨s, by simp, hs, hv⟩
    · rw [Table.get?_put_of_ne _ hmn] at hm
      obtain ⟨s', hs', hn, hw⟩ := h.sound m w hm hd
      exact ⟨s', List.mem_append_left _ hs', hn, hw⟩
  complete s' hs' m hm hd := by
    by_cases hmn : m = mangle className n
    · exact ⟨v, by rw [hmn, Table.get?_put_self]⟩
    · rw [Table.get?_put_of_ne _ hmn]
      rcases List.mem_append.mp hs' with hs' | hs'
      · exact h.complete s' hs' m hm hd
      · cases List.mem_singleton.mp hs'
        cases hs.symm.trans hm
        exact absurd (mangle_of_isDescribed className hd).symm hmn

/-- A statement that defines nothing. -/
theorem pass (h : Holds made body vars) {s : Stmt} (hs : s.defined? = none) :
    Holds made (body ++ [s]) vars where
  sound n v hv hd := by
    obtain ⟨s', hs', hn, hm⟩ := h.sound n v hv hd
    exact ⟨s', List.mem_append_left _ hs', hn, hm⟩
  complete s' hs' n hn hd := by
    rcases List.mem_append.mp hs' with hs' | hs'
    · exact h.complete s' hs' n hn hd
    · cases List.mem_singleton.mp hs'
      cases hs.symm.trans hn

end Holds

/-! ## What a statement makes -/

/-- The value is the function that the statement defines. -/
inductive IsFunction (b : Base) (t : Store) : Stmt → Value → Prop
  | intro {f : FunctionDef Stmt} {i : Nat} (size : i < t.functions.size)
      (name : (t.function i).name = f.name) (home : (t.function i).home = .text b.name) :
      IsFunction b t (.functionDef f) (.function i)

/-- The value is the class that the statement defines. -/
inductive IsClass (b : Base) (t : Store) : Stmt → Value → Prop
  | intro {c : ClassDef Stmt} {i : Nat} (size : i < t.classes.size)
      (name : (t.classObject i).name = c.name)
      (home : (t.classObject i).vars.get? "__module__" = some (.text b.name))
      (order : (t.classObject i).order = [.defined i, .known "object"])
      (vars : Holds (IsFunction b t) c.body (t.classObject i).vars) :
      IsClass b t (.classDef c) (.cls (.defined i))

/-- The value is what the statement defines. -/
def IsDefined (b : Base) (t : Store) (s : Stmt) (v : Value) : Prop :=
  IsFunction b t s v ∨ IsClass b t s v

/-- What a statement has made it has made for good, and functions are made. -/
structure Lasting (b : Base) (made : Store → Stmt → Value → Prop) : Prop where
  function : ∀ {t s v}, IsFunction b t s v → made t s v
  grows : ∀ {t t' s v}, Grows t t' → made t s v → made t' s v

/-- A function stays the one that its statement defines. -/
theorem lasting_isFunction : Lasting b (IsFunction b) where
  function h := h
  grows hg h := by
    cases h with
    | intro size name home =>
      obtain ⟨hsize, heq⟩ := hg.functions _ size
      exact .intro hsize (heq ▸ name) (heq ▸ home)

/-- What a statement defines stays so. -/
theorem lasting_isDefined : Lasting b (IsDefined b) where
  function h := .inl h
  grows hg h := by
    rcases h with h | h
    · exact .inl (lasting_isFunction.grows hg h)
    · cases h with
      | intro size name home order vars =>
        obtain ⟨hsize, heq⟩ := hg.classes _ size
        exact .inr (.intro hsize (heq ▸ name) (heq ▸ home) (heq ▸ order)
          (heq ▸ vars.mono fun _ _ hv => lasting_isFunction.grows hg hv))

/-! ## Statements one after the other -/

/-- Some statements were run in a body: the variables hold what they have made, besides what was made
before, and all else stays. -/
structure Ran (b : Base) (made : Store → Stmt → Value → Prop) (k : Nat) (body : List Stmt)
    (t t' : Store) : Prop where
  fits : Fits b t'
  grows : Grows t t'
  size : t.frames.size ≤ t'.frames.size
  frames : ∀ i < t.frames.size, i ≠ k → t'.frame i = t.frame i
  kind : (t'.frame k).kind = (t.frame k).kind
  special : ∀ n ∈ specialNames, (t'.frame k).vars.get? n = (t.frame k).vars.get? n
  holds : ∀ done, Holds (made t) done (t.frame k).vars →
    Holds (made t') (done ++ body) (t'.frame k).vars

section Ran

variable {made : Store → Stmt → Value → Prop} {k : Nat} {body body' : List Stmt}

/-- No statement changes nothing. -/
theorem Ran.nil (h : Fits b t) : Ran b made k [] t t where
  fits := h
  grows := refl_of Grows t
  size := le_refl _
  frames _ _ _ := rfl
  kind := rfl
  special _ _ := rfl
  holds done h := (List.append_nil done).symm ▸ h

/-- Statements are run one after the other. -/
theorem Ran.append {u : Store} (h : Ran b made k body t t') (h' : Ran b made k body' t' u) :
    Ran b made k (body ++ body') t u where
  fits := h'.fits
  grows := trans_of Grows h.grows h'.grows
  size := h.size.trans h'.size
  frames i hi hk := (h'.frames i (hi.trans_le h.size) hk).trans (h.frames i hi hk)
  kind := h'.kind.trans h.kind
  special n hn := (h'.special n hn).trans (h.special n hn)
  holds done hdone := by
    rw [← List.append_assoc]
    exact h'.holds _ (h.holds done hdone)

/-- The body is that of the module or of a class. -/
def IsBody (t : Store) (k : Nat) : Prop :=
  k < t.frames.size ∧ (k = 0 ∨ (t.frame k).kind = .classBody)

/-- A body stays the body it is. -/
theorem Ran.isBody (h : Ran b made k body t t') (hk : IsBody t k) : IsBody t' k :=
  ⟨hk.1.trans_le h.size, hk.2.imp_right fun hkind => h.kind.trans hkind⟩

/-- What such a body defines belongs to the module. -/
theorem Fits.homeOf (h : Fits b t) (hk : IsBody t k) : homeOf t k = .text b.name := by
  obtain ⟨u, ho⟩ := h
  have hroot := ho.root.2
  unfold Live.homeOf
  dsimp only
  rcases hk.2 with rfl | hkind
  · rw [hroot.kind]
    exact congrArg (Option.getD · Value.none) hroot.name
  · rw [hkind, ((ho.frames k).globals hkind).1]
    exact congrArg (Option.getD · Value.none) hroot.name

/-- A statement that defines nothing changes nothing. -/
theorem Ran.pass (h : Fits b t) {s : Stmt} (hs : s.defined? = none) : Ran b made k [s] t t :=
  { (Ran.nil h : Ran b made k [] t t) with holds := fun _ hdone => hdone.pass hs }

/-- A definition binds the name to what it has made. -/
theorem Ran.put (hlast : Lasting b made) {s : Stmt} {n : String} {v : Value}
    (hs : s.defined? = some n) (hn : n ∉ specialNames) (hfits : Fits b t') (hgrows : Grows t t')
    (hsize : t.frames.size ≤ t'.frames.size)
    (hframes : ∀ i < t.frames.size, i ≠ k → t'.frame i = t.frame i) {className : Option String}
    (hframe : t'.frame k = { t.frame k with vars := (t.frame k).vars.put (mangle className n) v })
    (hmade : made t' s v) : Ran b made k [s] t t' where
  fits := hfits
  grows := hgrows
  size := hsize
  frames := hframes
  kind := by rw [hframe]
  special m hm := by
    rw [hframe]
    refine Table.get?_put_of_ne _ ?_ v
    rintro rfl
    exact mangle_not_mem_specialNames className hn hm
  holds done hdone := by
    rw [hframe]
    exact (hdone.mono fun _ _ hv => hlast.grows hgrows hv).put className hs hmade

end Ran

/-! ## Functions -/

section Functions

variable {k : Nat}

/-- A name is bound in its own body, under the name that is kept there. -/
theorem run_bindName (h : Fits b t) (k : Nat) (name : String) (v : Value) :
    (bindName k name v).run.run t = (.ok (), { t with
      frames := t.frames.modify k fun f =>
        { f with vars := f.vars.put (mangle (t.frame k).className name) v } }) := by
  obtain ⟨u, ho⟩ := h
  change (Run.setVar (t.home k (mangle (t.frame k).className name)) _ v).run.run t = _
  rw [(ho.frames k).home_eq (.inl rfl)]
  rfl

/-- What the definition of a function does. -/
theorem run_functionDef (m : Machine) {f : FunctionDef Stmt} (hf : f.isSimple b.imports = true)
    (ht : Fits b t) {flow : Flow}
    (hrun : (execute m k (.functionDef f)).run.run t = (.ok flow, t')) :
    flow = .next ∧ ∃ g : FunctionObject, g.name = f.name ∧ g.home = homeOf t k ∧
      t'.functions = t.functions.push g ∧ t'.classes = t.classes ∧
      t'.frames = t.frames.modify k fun r => { r with
        vars := r.vars.put (mangle (t.frame k).className f.name) (.function t.functions.size) } := by
  obtain ⟨isAsync, name, params, returns, decorators, body⟩ := f
  simp only [FunctionDef.isSimple, isSimpleName, Bool.and_eq_true, List.isEmpty_iff,
    List.all_eq_true] at hf
  obtain ⟨⟨⟨⟨hname, -⟩, rfl⟩, hparams⟩, hreturns⟩ := hf
  simp only [execute, evaluateItems, pure_bind] at hrun
  obtain ⟨ps, t₁, hps, hrun⟩ := Run.of_bind_ok hrun
  obtain ⟨ht₁, ⟨qs, hqs⟩, hkept⟩ := (along_evaluateDefaults m m k hparams).fits ht hps
  obtain ⟨hints, t₂, hhints, hrun⟩ := Run.of_bind_ok hrun
  obtain ⟨ht₂, ⟨hints', hhints'⟩, hkept₂⟩ := (along_hintTable m m k hparams hreturns).fits ht₁ hhints
  obtain ⟨hframes, hfunctions, hclasses, -⟩ := trans_of Kept hkept hkept₂
  obtain ⟨v, t₃, hdefine, hrun⟩ := Run.of_bind_ok hrun
  have ht₃ := ((along_defineFunction k hname hqs hhints' (isLeaf_docOf body) _ _).fits ht₂ hdefine).1
  obtain ⟨_, _, hdecorate, hrun⟩ := Run.of_bind_ok hrun
  cases hdecorate
  obtain ⟨_, t₄, hbind, hrun⟩ := Run.of_bind_ok hrun
  rw [run_bindName ht₃] at hbind
  cases hdefine
  cases hbind
  cases hrun
  have hframe : t₂.frame = t.frame := by
    unfold Store.frame
    rw [hframes]
  have hhome : homeOf t₂ k = homeOf t k := by
    unfold homeOf
    rw [hframe]
  refine ⟨rfl, _, ?_, ?_, congrArg (Array.push · _) hfunctions, hclasses, ?_⟩
  · rfl
  · exact hhome
  · rw [← hframe, ← hframes, ← hfunctions]
    rfl

variable {made : Store → Stmt → Value → Prop} (hlast : Lasting b made)
include hlast

/-- The definition of a function binds its name to the function. -/
theorem ran_functionDef (m : Machine) {f : FunctionDef Stmt} (hf : f.isSimple b.imports = true)
    (ht : Fits b t) (hk : IsBody t k) {flow : Flow}
    (hrun : (execute m k (.functionDef f)).run.run t = (.ok flow, t')) :
    flow = .next ∧ Ran b made k [.functionDef f] t t' := by
  have hfits := ((along_execute_functionDef m k hf).fits ht hrun).1
  obtain ⟨hnext, g, hname, hhome, hfunctions, hclasses, hframes⟩ := run_functionDef m hf ht hrun
  have hspecial : f.name ∉ specialNames := by
    simp only [FunctionDef.isSimple, isSimpleName, Bool.and_eq_true, Bool.not_eq_true',
      List.contains_eq_mem, decide_eq_false_iff_not] at hf
    exact hf.1.1.1.2
  have hg : t'.function t.functions.size = g := by rw [function_of_push hfunctions, if_pos rfl]
  have hmade : IsFunction b t' (.functionDef f) (.function t.functions.size) := by
    refine .intro ?_ (hg ▸ hname) ?_
    · rw [hfunctions, Array.size_push]
      exact Nat.lt_succ_self _
    · rw [hg, hhome, ht.homeOf hk]
  have hframe := frame_of_modify (i := k) hframes
  rw [if_pos ⟨rfl, hk.1⟩] at hframe
  refine ⟨hnext, Ran.put hlast rfl hspecial hfits (.of_push_function hfunctions hclasses) ?_ ?_
    hframe (hlast.function hmade)⟩
  · rw [hframes, Array.size_modify]
  · intro i _ hi
    rw [frame_of_modify hframes, if_neg fun h => hi h.1]

/-- A member of a class does nothing but define, if it is a function. -/
theorem ran_member (m : Machine) {s : Stmt} (hs : s.isSimpleMember b.imports = true) (ht : Fits b t)
    (hk : IsBody t k) {flow : Flow} (hrun : (execute m k s).run.run t = (.ok flow, t')) :
    flow = .next ∧ Ran b made k [s] t t' := by
  unfold Stmt.isSimpleMember at hs
  split at hs
  · exact ran_functionDef hlast m hs ht hk hrun
  · simp only [execute, evaluate, pure_bind] at hrun
    cases hrun
    exact ⟨rfl, .pass ht rfl⟩
  · simp only [execute] at hrun
    cases hrun
    exact ⟨rfl, .pass ht rfl⟩
  · cases hs

end Functions

/-- Statements one after the other, given each of them. -/
theorem ran_executeAll {made : Store → Stmt → Value → Prop} {k : Nat} (m : Machine) {body : List Stmt}
    (hstep : ∀ s ∈ body, ∀ {t t' : Store} {flow : Flow}, Fits b t → IsBody t k →
      (execute m k s).run.run t = (.ok flow, t') → flow = .next ∧ Ran b made k [s] t t')
    (ht : Fits b t) (hk : IsBody t k) {flow : Flow}
    (hrun : (executeAll m k body).run.run t = (.ok flow, t')) : Ran b made k body t t' := by
  induction body generalizing t with
  | nil =>
    simp only [executeAll] at hrun
    cases hrun
    exact .nil ht
  | cons s body ih =>
    rw [List.forall_mem_cons] at hstep
    simp only [executeAll] at hrun
    obtain ⟨_, t₁, hs, hrun⟩ := Run.of_bind_ok hrun
    obtain ⟨rfl, hran⟩ := hstep.1 ht hk hs
    exact hran.append (ih hstep.2 hran.fits (hran.isBody hk) hrun)

/-! ## Classes -/

/-- What the body of a class starts with. -/
theorem run_classFrame (h : Fits b t) {name : String} {body : List Stmt} {i : Nat}
    (hrun : (classFrame 0 name body).run.run t = (.ok i, t')) :
    i = t.frames.size ∧ t'.functions = t.functions ∧ t'.classes = t.classes ∧
      ∃ f : Frame, t'.frames = t.frames.push f ∧ f.kind = .classBody ∧
        f.vars.get? "__module__" = some (.text b.name) ∧
        ∀ n, n ∉ startNames → f.vars.get? n = none := by
  have hroot := h.root.2
  have hlookup : (lookupGlobal 0 "__name__").run.run t = (.ok (.text b.name), t) := by
    have hget : (get : Run Store).run.run t = (.ok t, t) := rfl
    unfold lookupGlobal
    rw [Run.run_bind, hget]
    dsimp only
    rw [hroot.name]
    rfl
  unfold classFrame at hrun
  obtain ⟨_, _, hget, hrun⟩ := Run.of_bind_ok hrun
  cases hget
  dsimp only at hrun
  rw [hroot.kind] at hrun
  obtain ⟨_, _, hhome, hrun⟩ := Run.of_bind_ok hrun
  cases hlookup.symm.trans hhome
  cases hrun
  obtain ⟨-, hmodule, hother⟩ := classFrame_vars b.name (t.pathOf 0 (mangle (t.frame 0).className name)) body
  exact ⟨rfl, rfl, rfl, _, rfl, rfl, hmodule, hother⟩

/-- The class that is made of the variables of a body. -/
theorem run_makeBy (ht : Fits b t) (m : Machine) {name : String} {vars vars' : Table} {v : Value}
    (hvars : TableAlike b [] vars vars') (hslots : vars.get? "__slots__" = none)
    (hhome : ∀ v, vars.get? "__module__" = some v → ∃ m, v = .text m)
    (hrun : (makeBy m (.cls (.known "type")) name [] vars []).run.run t = (.ok v, t')) :
    v = .cls (.defined t.classes.size) ∧
      (∃ path, t'.classes = t.classes.push (plainClass name path vars t.classes.size)) ∧
      t'.functions = t.functions ∧ t'.frames = t.frames := by
  rw [run_makeBy_type, run_makeClass m name hslots] at hrun
  obtain ⟨path, t₁, hpath, hrun⟩ := Run.of_bind_ok hrun
  obtain ⟨ht₁, -, hkept⟩ := (along_givenPath name hvars).fits ht hpath
  obtain ⟨i, t₂, hnew, hrun⟩ := Run.of_bind_ok hrun
  have ht₂ := ((along_newClass (plainClass_alike hvars hhome name path)).fits ht₁ hnew).1
  obtain ⟨_, t₃, hnames, hrun⟩ := Run.of_bind_ok hrun
  obtain ⟨ht₃, -, hkept₃⟩ := (along_nameMembers m (.defined i) (.defined i) hvars.keptVars).fits ht₂ hnames
  obtain ⟨_, t₄, htell, hrun⟩ := Run.of_bind_ok hrun
  obtain ⟨-, -, hkept₄⟩ := (along_tellBases m i).fits ht₃ htell
  obtain ⟨hframes, hfunctions, hclasses, -⟩ := trans_of Kept hkept₃ hkept₄
  cases hrun
  cases hnew
  rw [← hkept.classes, ← hkept.functions, ← hkept.frames]
  exact ⟨rfl, ⟨path, hclasses⟩, hfunctions, hframes⟩

/-- The variables of the body of a class when it has been run. -/
theorem run_classBody (m : Machine) {name : String} {body : List Stmt} (hname : isUndotted name = true)
    (hbody : ∀ s ∈ body, s.isSimpleMember b.imports = true) (ht : Fits b t) {k : Nat} {flow : Flow}
    {t₁ : Store} (hstart : (classFrame 0 name body).run.run t = (.ok k, t₁))
    (hrun : (executeAll m k body).run.run t₁ = (.ok flow, t')) :
    k ≠ 0 ∧ Fits b t' ∧ Grows t t' ∧ t.frames.size ≤ t'.frames.size ∧
      (∀ i < t.frames.size, t'.frame i = t.frame i) ∧
      (t'.frame k).vars.get? "__module__" = some (.text b.name) ∧
      Holds (IsFunction b t') body (t'.frame k).vars := by
  have ht₁ := ((along_classFrame hname hbody).fits ht hstart).1
  obtain ⟨rfl, hfunctions, hclasses, f, hframes, hkind, hmodule, hother⟩ := run_classFrame ht hstart
  have hsize : t₁.frames.size = t.frames.size + 1 := by rw [hframes, Array.size_push]
  have hframe : t₁.frame t.frames.size = f := by rw [frame_of_push hframes, if_pos rfl]
  have hstays : ∀ i < t.frames.size, t₁.frame i = t.frame i := fun i hi => by
    rw [frame_of_push hframes, if_neg hi.ne]
  have hinner : IsBody t₁ t.frames.size := ⟨by omega, .inr (by rw [hframe, hkind])⟩
  have hran : Ran b (IsFunction b) t.frames.size body t₁ t' := ran_executeAll m
    (fun s hs _ _ _ ht hk hrun => ran_member lasting_isFunction m (hbody s hs) ht hk hrun) ht₁ hinner hrun
  have hempty : Holds (IsFunction b t₁) [] (t₁.frame t.frames.size).vars := by
    refine .start fun n v hv => ?_
    have hnames : ∀ n ∈ startNames, isDescribed n = false := by decide +kernel
    refine hnames n (by_contra fun hn => ?_)
    rw [hframe, hother n hn] at hv
    cases hv
  refine ⟨ht.root.1.ne', hran.fits, trans_of Grows (.of_eq hfunctions hclasses) hran.grows, ?_, ?_, ?_,
    hran.holds [] hempty⟩
  · exact (by omega : t.frames.size ≤ t₁.frames.size).trans hran.size
  · exact fun i hi => (hran.frames i (by omega) hi.ne).trans (hstays i hi)
  · rw [hran.special _ (by decide), hframe, hmodule]

/-- A class that has been made of what the body of its definition left is the one that it defines. -/
theorem isClass_of_push {c : ClassDef Stmt} {path : String} {vars : Table}
    (hclasses : t'.classes = t.classes.push (plainClass c.name path vars t.classes.size))
    (hfunctions : t'.functions = t.functions)
    (hmodule : vars.get? "__module__" = some (.text b.name))
    (hholds : Holds (IsFunction b t) c.body vars) :
    IsClass b t' (.classDef c) (.cls (.defined t.classes.size)) := by
  have hcls : t'.classObject t.classes.size = plainClass c.name path vars t.classes.size := by
    rw [classObject_of_push hclasses, if_pos rfl]
  refine .intro ?_ ?_ ?_ ?_ ?_
  · rw [hclasses, Array.size_push]
    exact Nat.lt_succ_self _
  · rw [hcls]
    rfl
  · rw [hcls]
    exact (get?_keptVars (by decide) _).trans hmodule
  · rw [hcls]
    rfl
  · -- the variables that making the class adjusts are none that are described
    have hnames : ∀ n ∈ adjustedNames, isDescribed n = false := by decide +kernel
    rw [hcls]
    refine (hholds.mono fun _ _ hv =>
      lasting_isFunction.grows (.of_push_class hfunctions hclasses) hv).congr fun n hn => ?_
    refine get?_keptVars (fun hmem => ?_) _
    rw [hnames n hmem] at hn
    cases hn

/-- What the definition of a class does. -/
theorem run_classDef (m : Machine) {c : ClassDef Stmt} (hc : c.isSimple b.imports = true)
    (ht : Fits b t) {flow : Flow}
    (hrun : (execute m 0 (.classDef c)).run.run t = (.ok flow, t')) :
    flow = .next ∧ ∃ v, IsClass b t' (.classDef c) v ∧ Grows t t' ∧ t.frames.size ≤ t'.frames.size ∧
      ∀ i < t.frames.size, t'.frame i = if i = 0 then { t.frame 0 with
        vars := (t.frame 0).vars.put (mangle none c.name) v } else t.frame i := by
  obtain ⟨name, bases, keywords, decorators, body⟩ := c
  simp only [ClassDef.isSimple, Bool.and_eq_true, List.isEmpty_iff, List.all_eq_true] at hc
  obtain ⟨⟨⟨⟨hname, rfl⟩, rfl⟩, rfl⟩, hmembers⟩ := hc
  have hundotted : isUndotted name = true := (Bool.and_eq_true _ _ ▸ hname).1
  simp only [execute, evaluateItems, evaluateKeywords, pure_bind, List.mapM_nil, List.flatten_nil,
    Table.get?, List.lookup_nil] at hrun
  obtain ⟨_, _, hget, hrun⟩ := Run.of_bind_ok hrun
  cases hget
  obtain ⟨_, _, htype, hrun⟩ := Run.of_bind_ok hrun
  cases htype
  obtain ⟨k, t₁, hstart, hrun⟩ := Run.of_bind_ok hrun
  obtain ⟨_, t₂, hbody, hrun⟩ := Run.of_bind_ok hrun
  obtain ⟨hk, ht₂, hgrows, hsize, hstays, hmodule, hholds⟩ :=
    run_classBody m hundotted hmembers ht hstart hbody
  obtain ⟨_, _, hget, hrun⟩ := Run.of_bind_ok hrun
  cases hget
  -- the class is made of the variables that are left
  obtain ⟨v, t₃, hmake, hrun⟩ := Run.of_bind_ok hrun
  obtain ⟨u, ho⟩ := ht₂
  have hf := ho.frames k
  have hvars : TableAlike b [] (t₂.frame k).vars (u.frame (k + b.frames)).vars := by
    have hvars := hf.vars
    rwa [Base.free, if_neg hk] at hvars
  have ht₃ := ((along_makeBy_type m name hvars hf.home hf.slots).fits ⟨u, ho⟩ hmake).1
  obtain ⟨rfl, ⟨path, hclasses⟩, hfunctions, hframes⟩ :=
    run_makeBy ⟨u, ho⟩ m hvars hf.slots hf.home hmake
  -- and its name is bound to it
  obtain ⟨_, _, hdecorate, hrun⟩ := Run.of_bind_ok hrun
  cases hdecorate
  obtain ⟨_, _, hbind, hrun⟩ := Run.of_bind_ok hrun
  cases hrun
  rw [run_bindName ht₃, ht₃.root.2.className] at hbind
  have hbound : t'.classes = t₃.classes ∧ t'.functions = t₃.functions ∧
      t'.frames = t₃.frames.modify 0 fun f => { f with
        vars := f.vars.put (mangle none name) (.cls (.defined t₂.classes.size)) } := by
    cases hbind
    exact ⟨rfl, rfl, rfl⟩
  rw [hclasses, hfunctions, hframes] at hbound
  obtain ⟨hclasses, hfunctions, hframes⟩ := hbound
  refine ⟨rfl, _, isClass_of_push hclasses hfunctions hmodule hholds,
    trans_of Grows hgrows (.of_push_class hfunctions hclasses), ?_, fun i hi => ?_⟩
  · rw [hframes, Array.size_modify]
    exact hsize
  · rw [frame_of_modify hframes, hstays i hi]
    by_cases hi0 : i = 0
    · rw [if_pos ⟨hi0, hi.trans_le hsize⟩, if_pos hi0, hi0]
    · rw [if_neg fun h => hi0 h.1, if_neg hi0]

/-- A statement of the module does nothing but define. -/
theorem ran_execute (m : Machine) {s : Stmt} (hs : s.isSimple b.imports = true)
    (himports : s.imports = []) (ht : Fits b t) {flow : Flow}
    (hrun : (execute m 0 s).run.run t = (.ok flow, t')) :
    flow = .next ∧ Ran b (IsDefined b) 0 [s] t t' := by
  have hroot := ht.root
  have hfits := ((along_execute m hs (by rw [himports]; exact nofun)).fits ht hrun).1
  unfold Stmt.isSimple at hs
  split at hs
  · rename_i names
    have hnames : names = [] := himports
    rw [hnames] at hrun ⊢
    simp only [execute] at hrun
    cases hrun
    exact ⟨rfl, .pass ht rfl⟩
  · rename_i c
    obtain ⟨hnext, v, hv, hgrows, hsize, hframes⟩ := run_classDef m hs ht hrun
    have hframe := hframes 0 hroot.1
    rw [if_pos rfl] at hframe
    have hspecial : c.name ∉ specialNames := by
      simp only [ClassDef.isSimple, isSimpleName, Bool.and_eq_true, Bool.not_eq_true',
        List.contains_eq_mem, decide_eq_false_iff_not] at hs
      exact hs.1.1.1.1.2
    refine ⟨hnext, .put lasting_isDefined rfl hspecial hfits hgrows hsize (fun i hi hne => ?_) hframe
      (.inr hv)⟩
    rw [hframes i hi, if_neg hne]
  · exact ran_member lasting_isDefined m hs ht ⟨hroot.1, .inl rfl⟩ hrun

/-! ## Files -/

section Files

variable {made : Store → Stmt → Value → Prop} {k : Nat} {body : List Stmt}

/-- New objects are no change to the names. -/
theorem Ran.of_kept (hlast : Lasting b made) (ht : Fits b t) (h : Kept t t') :
    Ran b made k [] t t' := by
  have hgrows : Grows t t' := .of_eq h.functions h.classes
  have hframe : t'.frame = t.frame := by
    unfold Store.frame
    rw [h.frames]
  exact {
    fits := ht.of_kept h
    grows := hgrows
    size := by rw [h.frames]
    frames := fun i _ _ => by rw [hframe]
    kind := by rw [hframe]
    special := fun n _ => by rw [hframe]
    holds := fun done hdone => by
      rw [List.append_nil, hframe]
      exact hdone.mono fun _ _ hv => hlast.grows hgrows hv }

/-- A change to a body that leaves the described names as they are. -/
theorem Ran.touch (hlast : Lasting b made) (hfits : Fits b t') (F : Frame → Frame)
    (hframes : t'.frames = t.frames.modify k F) (hfunctions : t'.functions = t.functions)
    (hclasses : t'.classes = t.classes) (hkind : ∀ f, (F f).kind = f.kind)
    (hvars : ∀ f n, isDescribed n = true ∨ n ∈ specialNames → (F f).vars.get? n = f.vars.get? n) :
    Ran b made k [] t t' := by
  have hgrows : Grows t t' := .of_eq hfunctions hclasses
  have hframe : t'.frame k = t.frame k ∨ t'.frame k = F (t.frame k) := by
    rw [frame_of_modify hframes]
    split
    · exact .inr rfl
    · exact .inl rfl
  have hget : ∀ n, isDescribed n = true ∨ n ∈ specialNames →
      (t'.frame k).vars.get? n = (t.frame k).vars.get? n := by
    intro n hn
    rcases hframe with h | h
    · rw [h]
    · rw [h, hvars _ n hn]
  exact {
    fits := hfits
    grows := hgrows
    size := by rw [hframes, Array.size_modify]
    frames := fun i _ hi => by rw [frame_of_modify hframes, if_neg fun h => hi h.1]
    kind := by
      rcases hframe with h | h
      · rw [h]
      · rw [h, hkind]
    special := fun n hn => hget n (.inr hn)
    holds := fun done hdone => by
      rw [List.append_nil]
      exact (hdone.mono fun _ _ hv => hlast.grows hgrows hv).congr fun n hn => hget n (.inl hn) }

/-- A name that is not described may get any constant. -/
theorem ran_setVar (hlast : Lasting b made) (ht : Fits b t) {name : String} {v : Value} {w : Unit}
    (hname : isDescribed name = false) (hspecial : name ∉ specialNames) (hv : v.isLeaf = true)
    (hrun : (Run.setVar 0 name v).run.run t = (.ok w, t')) : Ran b made 0 [] t t' := by
  have hfits := ((along_setVar (b := b) (v := v) 0 hspecial ⟨rfl, .inl (.of_isLeaf hv)⟩).fits ht hrun).1
  cases hrun
  refine .touch hlast hfits (fun f => { f with vars := f.vars.put name v }) rfl rfl rfl (fun _ => rfl)
    fun f n hn => Table.get?_put_of_ne _ ?_ v
  rintro rfl
  rcases hn with hn | hn
  · rw [hname] at hn
    cases hn
  · exact hspecial hn

/-- A module without a docstring may get one. -/
theorem ran_suggestedDoc {d : Disk} {path : Path} (ht : Fits b t) {m m' : Module}
    (hrun : (do
      match t.moduleDoc 0 with
      | .none =>
        match ← suggestedDoc d path with
        | some text => Run.setVar 0 "__doc__" (.text text)
        | none => pure ()
      | _ => pure ()
      return m' : Run Module).run.run t = (.ok m, t')) :
    m = m' ∧ Ran b (IsDefined b) 0 [] t t' := by
  dsimp only at hrun
  split at hrun
  · obtain ⟨found, t₁, hfound, hrun⟩ := Run.of_bind_ok hrun
    have hkept := ((along_suggestedDoc d path).fits ht hfound).2.2
    have hran : Ran b (IsDefined b) 0 [] t t₁ := .of_kept lasting_isDefined ht hkept
    cases found with
    | none =>
      cases hrun
      exact ⟨rfl, hran⟩
    | some text =>
      obtain ⟨_, t₂, hset, hrun⟩ := Run.of_bind_ok hrun
      have hran₂ := hran.append
        (ran_setVar lasting_isDefined hran.fits (by decide +kernel) (by decide) rfl hset)
      cases hrun
      exact ⟨rfl, hran₂⟩
  · cases hrun
    exact ⟨rfl, .nil ht⟩

variable (hbody : ∀ s ∈ body, s.isSimple b.imports = true ∧ s.imports = [])
include hbody

/-- The statements of a module have been run when it has. -/
theorem ran_runModule (ht : Fits b t) {w : Unit}
    (hrun : (runModule 0 body).run.run t = (.ok w, t')) : Ran b (IsDefined b) 0 body t t' := by
  have hstatements {t : Store} (ht : Fits b t) {w : Unit}
      (hrun : (do let _ ← executeAll (machine callLimit) 0 body : Run Unit).run.run t = (.ok w, t')) :
      Ran b (IsDefined b) 0 body t t' := by
    obtain ⟨_, _, hrun, hend⟩ := Run.of_bind_ok hrun
    cases hend
    refine ran_executeAll _ (fun s hs _ _ _ ht _ hrun => ?_) ht ⟨ht.root.1, .inl rfl⟩ hrun
    exact ran_execute _ (hbody s hs).1 (hbody s hs).2 ht hrun
  have hdoc {t : Store} (ht : Fits b t) {w : Unit}
      (hrun : (do
        match docOf body with
        | .none => pure ()
        | doc => Run.setVar 0 "__doc__" doc
        let _ ← executeAll (machine callLimit) 0 body : Run Unit).run.run t = (.ok w, t')) :
      Ran b (IsDefined b) 0 body t t' := by
    rcases docOf_cases body with hnone | ⟨text, htext⟩
    · rw [hnone] at hrun
      exact hstatements ht hrun
    · rw [htext] at hrun
      obtain ⟨_, _, hset, hrun⟩ := Run.of_bind_ok hrun
      have hran := ran_setVar lasting_isDefined ht (by decide +kernel) (by decide) rfl hset
      exact hran.append (hstatements hran.fits hrun)
  unfold runModule at hrun
  obtain ⟨_, t₁, hhints, hrun⟩ := Run.of_bind_ok hrun
  have ht₁ := ((along_keepsHints (Source.keepsHints body)).fits ht hhints).1
  have hran₁ : Ran b (IsDefined b) 0 [] t t₁ := by
    cases hhints
    exact .touch lasting_isDefined ht₁ (fun f => { f with keepsHints := Source.keepsHints body })
      rfl rfl rfl (fun _ => rfl) fun _ _ _ => rfl
  refine hran₁.append ?_
  dsimp only at hrun
  by_cases hhints : bodyHints body = true
  · rw [if_pos hhints] at hrun
    obtain ⟨_, t₂, hset, hrun⟩ := Run.of_bind_ok hrun
    have hran₂ := ran_setVar lasting_isDefined ht₁ (by decide +kernel) (by decide) rfl hset
    exact hran₂.append (hdoc hran₂.fits hrun)
  · rw [if_neg hhints] at hrun
    exact hdoc ht₁ hrun

/-- So have those of a file that has been loaded. -/
theorem ran_fill {d : Disk} {path : Path} (hstatements : statementsOf d path = some body)
    (ht : Fits b t) {m : Module} (hrun : (fill d path 0).run.run t = (.ok m, t')) :
    m = ⟨path.stem, 0⟩ ∧ Ran b (IsDefined b) 0 body t t' := by
  unfold fill at hrun
  cases hbytes : d.bytes (d.resolve path) with
  | error e =>
    rw [statementsOf, hbytes] at hstatements
    cases hstatements
  | ok bytes =>
    rw [statementsOf, hbytes] at hstatements
    rw [hbytes] at hrun
    obtain ⟨body', t₁, hcompile, hrun⟩ := Run.of_bind_ok hrun
    obtain ⟨ht₁, ⟨_, -, hbody'⟩, hkept⟩ := (along_compile bytes).fits ht hcompile
    cases hbody'.symm.trans hstatements
    obtain ⟨_, t₂, hmodule, hrun⟩ := Run.of_bind_ok hrun
    have hran := ran_runModule hbody ht₁ hmodule
    obtain ⟨_, _, hget, hrun⟩ := Run.of_bind_ok hrun
    cases hget
    obtain ⟨hm, hdoc⟩ := ran_suggestedDoc hran.fits hrun
    have hdone := (Ran.of_kept lasting_isDefined ht hkept).append (hran.append hdoc)
    rw [List.append_nil] at hdone
    exact ⟨hm, hdone⟩

end Files

end Codebook.Live
