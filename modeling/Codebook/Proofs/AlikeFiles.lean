import Mathlib
import Codebook.Proofs.AlikeDefinitions

/-!
# Files in two sessions

A file is opened as a module of the session and its body is run there. The two sessions start with a
frame for the module, and what the body of a simple file leaves in it is the same in both, but for the
places.

* `statementsOf`: the statements of a file, where it can be read and compiled.
* `along_runModule`: the statements of a module, with its documentation.
* `run_load`: opening a file is split from running it (`fill`), where loading finds its modules.
* `along_fill`: running an opened file; opening comes first, so that the names a session knows can be
  told before the body runs. A run that ends has found all imports (`Filled`).
-/

namespace Codebook.Live

open Source

variable {b : Base}

/-! ## Files -/

/-- The statements of a file with the given bytes, if it can be run. -/
def statements? (bytes : List UInt8) : Option (List Stmt) :=
  if bytes.contains 0 || isObscure bytes then none
  else
    (sourceText? bytes).bind fun cs =>
      match Source.parse (String.ofList cs) with
      | .error _ => none
      | .ok body =>
        if runDepthLimit ≤ deepestIn body || !admissible body ||
          (Source.keepsHints body && !bodyWritable false body) then none
        else some body

/-- The statements of a file, if it can be run. -/
def statementsOf (d : Disk) (path : Path) : Option (List Stmt) :=
  (d.bytes (d.resolve path)).toOption.bind statements?

/-- The text of a file as it is run, which may declare how it is to be read. -/
def sourceOf (d : Disk) (path : Path) : Option String :=
  ((d.bytes (d.resolve path)).toOption.bind sourceText?).map String.ofList

/-- A file with known statements is parsed to them. -/
theorem parse_of_statementsOf {d : Disk} {path : Path} {code : String} {body : List Stmt}
    (hcode : sourceOf d path = some code) (hbody : statementsOf d path = some body) :
    Source.parse code = .ok body := by
  obtain ⟨cs, hcs, rfl⟩ := Option.map_eq_some_iff.mp hcode
  obtain ⟨bytes, hbytes, hcs⟩ := Option.bind_eq_some_iff.mp hcs
  rw [statementsOf, hbytes, Option.bind_some, statements?, hcs] at hbody
  split at hbody
  · cases hbody
  · rw [Option.bind_some] at hbody
    cases hparse : Source.parse (String.ofList cs) with
    | error e =>
      rw [hparse] at hbody
      cases hbody
    | ok body' =>
      rw [hparse] at hbody
      dsimp only at hbody
      split at hbody
      · cases hbody
      · rw [Option.some.inj hbody]

section Files

variable {α β : Type} {R : α → β → Prop}

/-- A file that cannot be read ends both runs. -/
theorem along_fileFault (e : FileError) : Along Kept b R (fileFault e) (fileFault e) := by
  cases e <;> exact .raiseWith (by decide +kernel) _ _

/-- A source that cannot be parsed ends both runs. -/
theorem along_sourceFault (e : Source.Error) {R : List Stmt → List Stmt → Prop} :
    Along Kept b R (sourceFault e) (sourceFault e) := by
  cases e <;> exact .raiseWith (by decide +kernel) _ _

/-- A source is compiled to its statements, or ends both runs. -/
theorem along_compile (bytes : List UInt8) :
    Along Kept b (fun body body' => body' = body ∧ statements? bytes = some body) (compile bytes)
      (compile bytes) := by
  unfold compile
  refine .ite (fun _ => along_sourceFault _) fun hzero => ?_
  refine .ite (fun _ => .beyond) fun hobscure => ?_
  cases hs : sourceText? bytes with
  | none => exact .fail rfl
  | some cs =>
    cases hp : Source.parse (String.ofList cs) with
    | error e =>
      simp only [hp]
      exact along_sourceFault e
    | ok body =>
      simp only [hp]
      refine .ite (fun _ => .raiseWith (by decide +kernel) _ _) fun hdepth => ?_
      refine .ite (fun _ => .fail rfl) fun hadmissible => ?_
      refine .ite (fun _ => .fail rfl) fun hhints => .pure ⟨rfl, ?_⟩
      simp only [statements?, hs, Option.bind_some, hp]
      rw [if_neg (by simp_all), if_neg (by simp_all)]

/-- What was compiled can be run. -/
theorem statements?_of_compile {bytes : List UInt8} {body : List Stmt} {t t' : Store}
    (h : (compile bytes).run.run t = (.ok body, t')) : statements? bytes = some body := by
  have hfault (e : Source.Error) : (sourceFault e).run.run t ≠ (.ok body, t') := by
    cases e <;> nofun
  unfold compile at h
  split at h
  · exact absurd h (hfault _)
  rename_i hzero
  split at h
  · cases h
  rename_i hobscure
  split at h
  · cases h
  rename_i cs hcs
  split at h
  · exact absurd h (hfault _)
  rename_i body' hparse
  split at h
  · cases h
  rename_i hdepth
  split at h
  · cases h
  rename_i hadmissible
  split at h
  · cases h
  rename_i hhints
  cases h
  simp only [statements?, hcs, Option.bind_some, hparse]
  rw [if_neg (by simp_all), if_neg (by simp_all)]

/-- Both runs suggest the same docstring. -/
theorem along_suggestedDoc (d : Disk) (path : Path) :
    Along Kept b Eq (suggestedDoc d path) (suggestedDoc d path) := by
  unfold suggestedDoc
  cases d.read path with
  | error e => exact along_fileFault e
  | ok text =>
    dsimp only
    cases Source.parse text with
    | error e => exact .pure rfl
    | ok body => exact .pure rfl

/-- The docstring of a body is missing or a text. -/
theorem docOf_cases (body : List Stmt) : docOf body = .none ∨ ∃ t, docOf body = .text t := by
  unfold docOf
  split
  · exact .inr ⟨_, rfl⟩
  · exact .inl rfl

/-- A module keeps its annotations in both runs, or in neither. -/
theorem along_keepsHints (x : Bool) : Along Anything b (fun _ _ => True)
    (Run.setFrame 0 fun f => { f with keepsHints := x })
    (Run.setFrame (0 + b.frames) fun f => { f with keepsHints := x }) := by
  intro t u ho
  refine ⟨.done (ho.modify_frame 0 (fun hf => ?_) fun _ hf => { hf with }) trivial, trivial⟩
  exact { hf with keepsHints := rfl }

/-- All that a module imports was found if it came to its end. -/
theorem along_runModule {body : List Stmt} (h : ∀ s ∈ body, s.isSimple b.imports = true)
    (himports : ∀ s ∈ body, ∀ a ∈ s.imports, a.name ∈ b.modules ∧ a.bound ∈ b.imports) :
    Along Anything b (fun _ _ => ∀ a ∈ importsIn body, b.canImport a.name = true)
      (runModule 0 body) (runModule (0 + b.frames) body) := by
  have hset (name : String) {v : Value} (hname : name ∉ specialNames) (hv : v.isLeaf = true) :
      Along Anything b (fun _ _ => True) (Run.setVar 0 name v) (Run.setVar (0 + b.frames) name v) :=
    along_setVar 0 hname ⟨rfl, .inl (.of_isLeaf hv)⟩
  have hrun : Along Anything b (fun _ _ => ∀ a ∈ importsIn body, b.canImport a.name = true)
      (do let _ ← executeAll (machine callLimit) 0 body)
      (do let _ ← executeAll (machine callLimit) (0 + b.frames) body) := by
    refine (along_executeAll _ fun s hs => along_execute _ (h s hs) (himports s hs)).bind ?_
    rintro _ _ ⟨-, hfound⟩
    refine .pure fun a ha => ?_
    obtain ⟨s, hs, ha⟩ := List.mem_flatMap.mp ha
    exact hfound s hs a ha
  unfold runModule
  rcases docOf_cases body with hnone | ⟨t, htext⟩
  · rw [hnone]
    refine (along_keepsHints _).seq (.ite (fun _ => ?_) fun _ => hrun)
    exact (hset "__annotations__" (by decide) rfl).seq hrun
  · have hdoc := (hset "__doc__" (by decide) (rfl : (Value.text t).isLeaf = true)).seq hrun
    rw [htext]
    refine (along_keepsHints _).seq (.ite (fun _ => ?_) fun _ => hdoc)
    exact (hset "__annotations__" (by decide) rfl).seq hdoc

/-- The docstring of the module is the same. -/
theorem Over.moduleDoc_moved {t u : Store} (h : Over b t u) :
    Moved b (t.moduleDoc 0) (u.moduleDoc (0 + b.frames)) := by
  have hdoc : "__doc__" ∉ b.imports := not_mem_imports_of_not_isPublic (by decide +kernel)
  unfold Store.moduleDoc
  rcases rel_cases ((h.frames 0).get? hdoc) with ⟨ht, hu⟩ | ⟨v, w, ht, hu, hvw⟩
  · rw [ht, hu]
    exact h.classDoc_moved (.known "module")
  · rw [ht, hu]
    exact hvw

/-- A file that has come to its end can be run. -/
theorem exists_statements_of_fill {d : Disk} {path : Path} {frame : Nat} {m : Module} {t t' : Store}
    (h : (fill d path frame).run.run t = (.ok m, t')) : ∃ body, statementsOf d path = some body := by
  unfold fill at h
  rw [statementsOf]
  cases hbytes : d.bytes (d.resolve path) with
  | error e =>
    rw [hbytes] at h
    cases e <;> cases h
  | ok bytes =>
    rw [hbytes] at h
    obtain ⟨body, _, hcompile, -⟩ := Run.of_bind_ok h
    exact ⟨body, statements?_of_compile hcompile⟩

/-- The session when a file is about to be run. -/
def opened (d : Disk) (path : Path) (s : Store) : Store :=
  { s with
    frames := s.frames.push (moduleFrame path.stem (d.resolve path).toString)
    modules := (path.stem, s.frames.size) :: s.modules.filter (·.1 != path.stem) }

/-- No file has taken the place of a module that loading goes by. -/
structure Unshadowed (s : Store) : Prop where
  importlib : s.module? "importlib" = none
  sys : s.module? "sys" = none

/-- A module whose place is not taken has what it is asked for. -/
theorem run_askModule {name : String} {s : Store} (h : s.module? name = none) (member : String) :
    (askModule name member).run.run s = (.ok (), s) := by
  have hget : (get : Run Store).run.run s = (.ok s, s) := rfl
  unfold askModule
  rw [Run.run_bind, hget]
  dsimp only
  rw [h]
  rfl

/-- A module that has what it is asked for is none that was loaded from a file. -/
theorem module?_of_askModule {name member : String} {s t : Store}
    (h : (askModule name member).run.run s = (.ok (), t)) : s.module? name = none ∧ t = s := by
  have hget : (get : Run Store).run.run s = (.ok s, s) := rfl
  unfold askModule at h
  rw [Run.run_bind, hget] at h
  dsimp only at h
  cases hm : s.module? name with
  | none =>
    rw [hm] at h
    cases h
    exact ⟨rfl, rfl⟩
  | some f =>
    rw [hm] at h
    dsimp only at h
    split at h
    · cases h
    · cases h

/-- A file is loaded by opening its module and running it there. -/
theorem run_load {d : Disk} {path : Path} (h : path.toString.endsWith ".py" = true) {s : Store}
    (hs : Unshadowed s) :
    (load d path).run.run s = (fill d path s.frames.size).run.run (opened d path s) := by
  unfold load
  rw [Run.run_bind, run_askModule hs.importlib]
  dsimp only
  rw [if_pos h, Run.run_bind, run_askModule hs.sys]
  rfl

/-- A session in which a file was loaded is one that loading finds its modules in. -/
theorem unshadowed_of_load {d : Disk} {path : Path} {s t : Store} {m : Module}
    (h : path.toString.endsWith ".py" = true) (hload : (load d path).run.run s = (.ok m, t)) :
    Unshadowed s := by
  unfold load at hload
  obtain ⟨_, _, hask, hrest⟩ := Run.of_bind_ok hload
  obtain ⟨himportlib, rfl⟩ := module?_of_askModule hask
  rw [if_pos h] at hrest
  obtain ⟨_, _, hsys, -⟩ := Run.of_bind_ok hrest
  exact ⟨himportlib, (module?_of_askModule hsys).1⟩

/-- The results of running a file: its module, all of whose imports were found. -/
structure Filled (d : Disk) (path : Path) (b : Base) (m n : Module) : Prop where
  fresh : m = ⟨b.name, 0⟩
  later : n = ⟨b.name, 0 + b.frames⟩
  found : ∀ body, statementsOf d path = some body →
    ∀ a ∈ importsIn body, b.canImport a.name = true

/-- A simple file is loaded alike. -/
theorem along_fill {d : Disk} {path : Path} (hname : path.stem = b.name)
    (h : ∀ body, statementsOf d path = some body → ∀ s ∈ body, s.isSimple b.imports = true ∧
      ∀ a ∈ s.imports, a.name ∈ b.modules ∧ a.bound ∈ b.imports) :
    Along Anything b (Filled d path b) (fill d path 0) (fill d path (0 + b.frames)) := by
  unfold fill
  cases hbytes : d.bytes (d.resolve path) with
  | error e => exact (along_fileFault e).anything
  | ok bytes =>
    have hstatements : statementsOf d path = statements? bytes := by
      rw [statementsOf, hbytes]
      rfl
    refine (along_compile bytes).anything.bind ?_
    rintro _ body ⟨rfl, hbody⟩
    rw [← hstatements] at hbody
    have hsimple := h body hbody
    refine (along_runModule (fun s hs => (hsimple s hs).1) fun s hs => (hsimple s hs).2).bind
      fun _ _ hfound => ?_
    refine Along.get.bind fun s s' ho => ?_
    obtain ⟨hdoc, hdoc'⟩ := ho.moduleDoc_moved
    have hdone : Along Anything b (Filled d path b) (pure ⟨path.stem, 0⟩)
        (pure ⟨path.stem, 0 + b.frames⟩) := by
      refine .pure ⟨by rw [hname], by rw [hname], fun body' hbody' => ?_⟩
      cases hbody.symm.trans hbody'
      exact hfound
    rw [hdoc']
    generalize s.moduleDoc 0 = doc at hdoc
    cases hdoc with
    | leaf hleaf =>
      rw [Value.moved_of_isLeaf hleaf]
      cases doc with
      | none =>
        refine (along_suggestedDoc d path).anything.bind ?_
        rintro found _ rfl
        cases found with
        | none => exact hdone
        | some t => exact (along_setVar 0 (by decide) ⟨rfl, .inl (.of_isLeaf rfl)⟩).seq hdone
      | _ => exact hdone
    | _ => exact hdone

end Files

end Codebook.Live
