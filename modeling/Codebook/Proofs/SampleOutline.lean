import Mathlib
import Codebook.Proofs.BothDescriptions

/-!
# Which names in an outline are made up

An outline takes its names from the text of a file, with one exception: a file of the name of the sample
that defines nothing public is described by the sample, which has names of its own.

* `nothingMadeUp_of_lists`: a record that lists what statements define has no other names.
* `nothingMadeUp_iff`: nothing is made up exactly if the sample does not stand in for the file, and what
  is reported otherwise.
* `not_forall_nothingMadeUp`: an empty file of the name of the sample.
-/

namespace Codebook.Outline

open Inspection Source

/-- The statements of a text, of which there are none if it is no source text. -/
def statements (code : String) : List Stmt :=
  (parse code).toOption.getD []

/-- The statements of a text that is parsed. -/
theorem statements_of_parse {code : String} {body : List Stmt} (h : parse code = .ok body) :
    statements code = body := by
  rw [statements, h]
  rfl

/-- Each function of the record has the name of one that the statements define, each class that of a class,
and each method that of a function in the body of this class. -/
structure NothingMadeUp (body : List Stmt) (m : ModuleRecord) : Prop where
  functions : ∀ r ∈ m.functions, ∃ f, .functionDef f ∈ body ∧ f.isAsync = false ∧ f.name = r.name
  classes : ∀ r ∈ m.classes, ∃ k, .classDef k ∈ body ∧ k.name = r.name ∧
    ∀ g ∈ r.methods, ∃ f, .functionDef f ∈ k.body ∧ f.isAsync = false ∧ f.name = g.name

/-- Nothing is made up in an empty record. -/
theorem nothingMadeUp_emptyModule (body : List Stmt) (path : Path) :
    NothingMadeUp body (emptyModule path) :=
  ⟨fun _ hr => absurd hr List.not_mem_nil, fun _ hr => absurd hr List.not_mem_nil⟩

/-- Nothing is made up in a record of what is defined. -/
theorem nothingMadeUp_of_lists {body : List Stmt} {m : ModuleRecord}
    (h : Lists (·.isAsync = false) body m) : NothingMadeUp body m := by
  refine ⟨?_, ?_⟩
  · intro r hr
    exact ((h.functions r.name).mp ⟨r, hr, rfl⟩).2
  · intro r hr
    obtain ⟨k, hk, -, hdescribes⟩ := h.classes r hr
    refine ⟨k, hk, hdescribes.name.symm, ?_⟩
    intro g hg
    exact ((hdescribes.methods g.name).mp ⟨g, hg, rfl⟩).2

/-- The sample stands in for the file: it is of that name, and its text is source text that defines
nothing public. -/
def IsSampled (path : Path) (code : String) : Prop :=
  path.stem = "test_module" ∧ ∃ body, parse code = .ok body ∧
    (∀ f, .functionDef f ∈ body → isPublic f.name = true → f.isAsync = true) ∧
    ∀ k, .classDef k ∈ body → isPublic k.name = false

/-- A file that the sample stands in for is described by the sample. -/
theorem ofText_of_isSampled {path : Path} {code : String} (h : IsSampled path code) :
    (ofText path code).functions = [Sample.function path.toString] ∧
      (ofText path code).classes = [Sample.sampleClass path.toString] := by
  obtain ⟨hstem, body, hparse, hfunctions, hclasses⟩ := h
  have hfs : (functionsIn body).filter (isPublic ·.name) = [] := by
    refine List.filter_eq_nil_iff.mpr fun f hf hpublic => ?_
    obtain ⟨hf, hasync⟩ := mem_functionsIn.mp hf
    rw [hfunctions f hf hpublic] at hasync
    cases hasync
  have hcs : (classesIn body).filter (isPublic ·.name) = [] := by
    refine List.filter_eq_nil_iff.mpr fun k hk hpublic => ?_
    rw [hclasses k (mem_classesIn.mp hk)] at hpublic
    cases hpublic
  have hfound : definitions path.toString body = .ok ([], []) := by
    rw [definitions_eq_ok, hfs, hcs]
    exact ⟨rfl, rfl⟩
  have hsample : withSample path ([], []) =
      ([Sample.function path.toString], [Sample.sampleClass path.toString]) :=
    if_pos (beq_iff_eq.mpr hstem)
  simp only [ofText, hparse, hfound, hsample, and_self]

/-- All other files are described by what they define, or like empty ones. -/
theorem nothingMadeUp_of_not_isSampled {path : Path} {code : String} (h : ¬ IsSampled path code) :
    NothingMadeUp (statements code) (ofText path code) := by
  cases hparse : parse code with
  | error e =>
    rw [ofText_of_not_extractable path (by simp [hparse])]
    exact nothingMadeUp_emptyModule _ path
  | ok body =>
    rw [statements_of_parse hparse]
    cases hfound : definitions path.toString body with
    | error e =>
      simp only [ofText, hparse, hfound]
      exact nothingMadeUp_emptyModule body path
    | ok found =>
      have hsame : withSample path found = found := by
        by_contra hne
        obtain ⟨hstem, hdefined⟩ := (withSample_ne_iff hfound).mp hne
        exact h ⟨hstem, body, hparse, hdefined⟩
      exact nothingMadeUp_of_lists (ofText_of_found hparse hfound hsame).1.lists

/-- **When nothing is made up.** A file that can be read has an outline. Each of its functions has the name
of a function of the text, each class that of a class, and each method that of a function in the body of
this class, exactly if the sample does not stand in for the file. If it does, the outline has the function
and the class of the sample and no others. -/
theorem nothingMadeUp_iff {d : Disk} {path : Path} {code : String} (hr : d.read path = .ok code) :
    ∃ m, ofFile d path = .ok m ∧ (NothingMadeUp (statements code) m ↔ ¬ IsSampled path code) ∧
      (IsSampled path code → m.functions.map (·.name) = ["test_function"] ∧
        m.classes.map (fun c => (c.name, c.methods.map (·.name))) =
          [("TestClass", ["__init__", "test_method"])]) := by
  refine ⟨ofText path code, ofFile_of_read hr, ⟨?_, nothingMadeUp_of_not_isSampled⟩, ?_⟩
  · intro hnothing hsampled
    obtain ⟨f, hf, hasync, hname⟩ := hnothing.functions (Sample.function path.toString) (by
      rw [(ofText_of_isSampled hsampled).1]
      exact List.mem_cons_self)
    -- a function of this name would be public
    obtain ⟨-, body, hparse, hfunctions, -⟩ := hsampled
    rw [statements_of_parse hparse] at hf
    have hpublic : isPublic f.name = true := by
      rw [hname]
      exact (by decide : isPublic "test_function" = true)
    rw [hfunctions f hf hpublic] at hasync
    cases hasync
  · intro hsampled
    obtain ⟨hfunctions, hclasses⟩ := ofText_of_isSampled hsampled
    rw [hfunctions, hclasses]
    exact ⟨rfl, rfl⟩

/-- All names in the outline of a file that is not of the name of the sample are in its text. -/
theorem nothingMadeUp_twiceText :
    ∃ m, (onlyDisk twiceText).read onlyPath = .ok twiceText ∧
      ofFile (onlyDisk twiceText) onlyPath = .ok m ∧ m.names = (["f"], [("K", ["g"])]) ∧
      NothingMadeUp (statements twiceText) m := by
  obtain ⟨hcomparable, -, hnames⟩ := comparable_and_names_twiceText
  obtain ⟨body, hbody⟩ := exists_comparable hcomparable
  have hstem : onlyPath.stem ≠ "test_module" := by decide +kernel
  obtain ⟨m, hm, hiff, -⟩ := nothingMadeUp_iff hbody.read
  have htext : ofText onlyPath twiceText = m :=
    Except.ok.inj ((ofFile_of_read hbody.read).symm.trans hm)
  exact ⟨m, hbody.read, hm, htext ▸ hnames, hiff.mpr fun h => hstem h.1⟩

/-- **Names can be made up**: an empty file of the name of the sample has a function in its outline. -/
theorem not_forall_nothingMadeUp :
    ¬ ∀ (d : Disk) (path : Path) (code : String) (m : ModuleRecord), d.read path = .ok code →
      ofFile d path = .ok m → NothingMadeUp (statements code) m := by
  intro h
  have hread : (Disk.ofTexts [] [(["test_module.py"], "")]).read ⟨.here, ["test_module.py"]⟩ = .ok "" := by
    decide +kernel
  have hfunctions : (ofText ⟨.here, ["test_module.py"]⟩ "").functions.map (·.name) = ["test_function"] ∧
      (statements "").length = 0 := by
    decide +kernel
  obtain ⟨r, hr, -⟩ := List.mem_map.mp (hfunctions.1 ▸ List.mem_singleton_self "test_function")
  obtain ⟨f, hf, -⟩ := (h _ _ _ _ hread (ofFile_of_read hread)).functions r hr
  rw [List.length_eq_zero_iff.mp hfunctions.2] at hf
  cases hf

end Codebook.Outline
