import Mathlib
import Codebook.Outline.Module
import Codebook.Proofs.FileTree
import Codebook.Proofs.Result

/-!
# Which files have an outline

The outline of a file is all or nothing. A function can be described without running it if its
annotations are names and its docstring says what it gives back (`Describable`); a file is `Complete`
if this holds of each public function and of each method of a public class that is described.

* `functionRecord_isOk_iff`, `classRecord_isOk_iff`, `definitions_isOk_iff`: there is a record exactly
  in these cases.
* `reported_iff_complete`: a definition that has a record is in the outline of its file exactly if the
  file is complete. Otherwise nothing of the file is, not even its docstring.
* `not_forall_reported`: one function that cannot be described takes away the record of another.
-/

namespace Codebook.Outline

open Source

/-! ## Definitions among statements -/

/-- The functions that count are not asynchronous. -/
theorem mem_functionsIn {body : List Stmt} {f : Function} :
    f ∈ functionsIn body ↔ .functionDef f ∈ body ∧ f.isAsync = false := by
  rw [functionsIn, List.mem_filterMap]
  constructor
  · rintro ⟨s, hs, h⟩
    cases s with
    | functionDef g =>
      cases hg : g.isAsync with
      | true => simp [hg] at h
      | false =>
        obtain rfl : g = f := by simpa [hg] using h
        exact ⟨hs, hg⟩
    | _ => simp at h
  · rintro ⟨hs, hf⟩
    exact ⟨_, hs, by simp [hf]⟩

/-- All classes count. -/
theorem mem_classesIn {body : List Stmt} {c : Source.Class} :
    c ∈ classesIn body ↔ .classDef c ∈ body := by
  rw [classesIn, List.mem_filterMap]
  constructor
  · rintro ⟨s, hs, h⟩
    cases s with
    | classDef b =>
      obtain rfl : b = c := by simpa using h
      exact hs
    | _ => simp at h
  · intro hs
    exact ⟨_, hs, rfl⟩

/-! ## Functions -/

/-- The function can be described without running it. -/
structure Describable (f : Function) : Prop where
  /-- A parameter that can be given by position or by name is annotated with a name, if at all. -/
  hints : ∀ p ∈ f.params, p.kind = .positional → ∀ e, p.hint = some e → ∃ n, e = .name n
  /-- A result annotation with a dot has a name before it. -/
  result : ∀ v attr, f.returns = some (.attribute v attr) → ∃ n, v = .name n
  /-- The docstring describes the result. -/
  described : ∃ r, (Docstring.parse? (docstring? f.body)).returns = some r

/-- Only a name has a name. -/
theorem nameOf_isOk_iff {e : Expr} : (∃ n, nameOf e = .ok n) ↔ ∃ n, e = .name n := by
  cases e <;> simp [nameOf]

/-- Parameters are recorded if all annotations of plain ones are names. -/
theorem parametersOf_isOk_iff :
    ∀ {ps : List (Parameter Expr)}, (∃ qs, parametersOf ps = .ok qs) ↔
      ∀ p ∈ ps, p.kind = .positional → ∀ e, p.hint = some e → ∃ n, e = .name n
  | [] => by simp [parametersOf]
  | p :: ps => by
    rw [List.forall_mem_cons, ← parametersOf_isOk_iff, parametersOf]
    by_cases hk : p.kind = .positional
    · have hhint : (∃ a, hintOf p.hint = .ok a) ↔ ∀ e, p.hint = some e → ∃ n, e = .name n := by
        cases hp : p.hint with
        | none => simp [hintOf]
        | some e => simp [hintOf, Result.map_eq_ok, ← nameOf_isOk_iff]
      simp only [hk, beq_self_eq_true, if_true, forall_const, ← hhint]
      constructor
      · rintro ⟨qs, h⟩
        obtain ⟨a, ha, h⟩ := Result.bind_eq_ok.mp h
        obtain ⟨rest, hrest, -⟩ := Result.bind_eq_ok.mp h
        exact ⟨⟨a, ha⟩, rest, hrest⟩
      · rintro ⟨⟨a, ha⟩, rest, hrest⟩
        exact ⟨_, Result.bind_eq_ok.mpr ⟨a, ha, Result.bind_eq_ok.mpr ⟨rest, hrest, rfl⟩⟩⟩
    · simp [hk]

/-- A result is recorded if it is no attribute of another thing than a name. -/
theorem returnTypeOf_isOk_iff {e : Option Expr} :
    (∃ t, returnTypeOf e = .ok t) ↔ ∀ v attr, e = some (.attribute v attr) → ∃ n, v = .name n := by
  rcases e with _ | e
  · simp [returnTypeOf]
  · cases e <;> simp [returnTypeOf, Result.map_eq_ok, ← nameOf_isOk_iff]

/-- What the record of a function is made of. -/
theorem functionRecord_eq_ok_iff {path : String} {f : Function} {r : FunctionRecord} :
    functionRecord path f = .ok r ↔
      ∃ ps t result, parametersOf f.params = .ok ps ∧ returnTypeOf f.returns = .ok t ∧
        (Docstring.parse? (docstring? f.body)).returns = some result ∧
        ⟨originOf path, f.name, docstring? f.body, signature (ofNamed ps) t,
          (ofNamed ps).map fun p => (p.1, parameterInfo "POSITIONAL_OR_KEYWORD" none p.2
            ((Docstring.parse? (docstring? f.body)).description? p.1)),
          t, some result.description, path⟩ = r := by
  unfold functionRecord
  constructor
  · intro h
    obtain ⟨ps, hps, h⟩ := Result.bind_eq_ok.mp h
    obtain ⟨t, ht, h⟩ := Result.bind_eq_ok.mp h
    cases hd : (Docstring.parse? (docstring? f.body)).returns with
    | none => simp [hd] at h
    | some result =>
      simp only [hd] at h
      exact ⟨ps, t, result, hps, ht, rfl, Except.ok.inj h⟩
  · rintro ⟨ps, t, result, hps, ht, hd, rfl⟩
    simp only [hps, ht, hd, bind, Except.bind, pure, Except.pure]

/-- A function has a record exactly if it can be described. -/
theorem functionRecord_isOk_iff (path : String) (f : Function) :
    (∃ r, functionRecord path f = .ok r) ↔ Describable f := by
  constructor
  · rintro ⟨r, h⟩
    obtain ⟨ps, t, result, hps, ht, hd, -⟩ := functionRecord_eq_ok_iff.mp h
    exact ⟨parametersOf_isOk_iff.mp ⟨ps, hps⟩, returnTypeOf_isOk_iff.mp ⟨t, ht⟩, result, hd⟩
  · intro hf
    obtain ⟨ps, hps⟩ := parametersOf_isOk_iff.mpr hf.hints
    obtain ⟨t, ht⟩ := returnTypeOf_isOk_iff.mpr hf.result
    obtain ⟨result, hd⟩ := hf.described
    exact ⟨_, functionRecord_eq_ok_iff.mpr ⟨ps, t, result, hps, ht, hd, rfl⟩⟩

/-! ## Classes and files -/

/-- A class has a record exactly if each of its described methods can be described. -/
theorem classRecord_isOk_iff (path : String) (c : Source.Class) :
    (∃ r, classRecord path c = .ok r) ↔
      ∀ m, .functionDef m ∈ c.body → m.isAsync = false → isDescribed m.name = true →
        Describable m := by
  have hall : (∃ ms, ((functionsIn c.body).filter (isDescribed ·.name)).mapM
      (functionRecord path) = .ok ms) ↔
      ∀ m, .functionDef m ∈ c.body → m.isAsync = false → isDescribed m.name = true →
        Describable m := by
    simp only [Result.exists_mapM_eq_ok, functionRecord_isOk_iff, List.mem_filter, mem_functionsIn,
      and_imp]
  rw [← hall, classRecord]
  constructor
  · rintro ⟨r, h⟩
    obtain ⟨ms, hms, -⟩ := Result.bind_eq_ok.mp h
    exact ⟨ms, hms⟩
  · rintro ⟨ms, hms⟩
    exact ⟨_, Result.bind_eq_ok.mpr ⟨ms, hms, rfl⟩⟩

/-- Every public function of the file and every described method of its public classes can be
described. -/
structure Complete (body : List Stmt) : Prop where
  functions : ∀ f, .functionDef f ∈ body → f.isAsync = false → isPublic f.name = true → Describable f
  methods : ∀ c, .classDef c ∈ body → isPublic c.name = true →
    ∀ m, .functionDef m ∈ c.body → m.isAsync = false → isDescribed m.name = true → Describable m

/-- The records of a file, if there are any, are those of its public definitions. -/
theorem definitions_eq_ok {path : String} {body : List Stmt} {fs : List FunctionRecord}
    {cs : List ClassRecord} :
    definitions path body = .ok (fs, cs) ↔
      ((functionsIn body).filter (isPublic ·.name)).mapM (functionRecord path) = .ok fs ∧
        ((classesIn body).filter (isPublic ·.name)).mapM (classRecord path) = .ok cs := by
  unfold definitions
  constructor
  · intro h
    obtain ⟨fs', hfs, h⟩ := Result.bind_eq_ok.mp h
    obtain ⟨cs', hcs, h⟩ := Result.bind_eq_ok.mp h
    obtain ⟨rfl, rfl⟩ := Prod.mk.inj (Except.ok.inj h)
    exact ⟨hfs, hcs⟩
  · rintro ⟨hfs, hcs⟩
    exact Result.bind_eq_ok.mpr ⟨fs, hfs, Result.bind_eq_ok.mpr ⟨cs, hcs, rfl⟩⟩

/-- A file has records exactly if it is complete. -/
theorem definitions_isOk_iff (path : String) (body : List Stmt) :
    (∃ found, definitions path body = .ok found) ↔ Complete body := by
  have hsplit : (∃ found, definitions path body = .ok found) ↔
      (∀ f ∈ (functionsIn body).filter (isPublic ·.name), ∃ r, functionRecord path f = .ok r) ∧
        ∀ c ∈ (classesIn body).filter (isPublic ·.name), ∃ r, classRecord path c = .ok r := by
    simp only [Prod.exists, definitions_eq_ok, exists_and_left, exists_and_right,
      Result.exists_mapM_eq_ok]
  rw [hsplit]
  simp only [functionRecord_isOk_iff, classRecord_isOk_iff, List.mem_filter, mem_functionsIn,
    mem_classesIn, and_imp]
  exact ⟨fun h => ⟨h.1, h.2⟩, fun h => ⟨h.functions, h.methods⟩⟩

/-! ## The outline of a file -/

/-- A file that can be read is outlined by its text. -/
theorem ofFile_of_read {d : Disk} {path : Path} {code : String} (hr : d.read path = .ok code) :
    ofFile d path = .ok (ofText path code) := by
  rw [ofFile, hr]
  rfl

/-- The sample never takes away what was found. -/
theorem withSample_of_mem {path : Path} {fs : List FunctionRecord} {cs : List ClassRecord} :
    (∀ r ∈ fs, r ∈ (withSample path (fs, cs)).1) ∧ ∀ r ∈ cs, r ∈ (withSample path (fs, cs)).2 := by
  rcases fs with _ | ⟨f, fs⟩
  · rcases cs with _ | ⟨c, cs⟩
    · exact ⟨fun _ h => absurd h List.not_mem_nil, fun _ h => absurd h List.not_mem_nil⟩
    · exact ⟨fun _ h => h, fun _ h => h⟩
  · exact ⟨fun _ h => h, fun _ h => h⟩

/-- The outline of a complete file reports every public definition that has a record, which is every
one. -/
theorem mem_ofText_of_complete {path : Path} {code : String} {body : List Stmt}
    (hp : parse code = .ok body) (hc : Complete body) :
    (∀ f r, .functionDef f ∈ body → f.isAsync = false → isPublic f.name = true →
      functionRecord path.toString f = .ok r → r ∈ (ofText path code).functions) ∧
    ∀ c r, .classDef c ∈ body → isPublic c.name = true →
      classRecord path.toString c = .ok r → r ∈ (ofText path code).classes := by
  obtain ⟨⟨fs, cs⟩, hfound⟩ := (definitions_isOk_iff path.toString body).mpr hc
  obtain ⟨hfs, hcs⟩ := definitions_eq_ok.mp hfound
  simp only [ofText, hp, hfound]
  constructor
  · intro f r hmem ha hpub hr
    have hf : f ∈ (functionsIn body).filter (isPublic ·.name) :=
      List.mem_filter.mpr ⟨mem_functionsIn.mpr ⟨hmem, ha⟩, hpub⟩
    exact withSample_of_mem.1 r (Result.mem_of_mapM_eq_ok hfs hf hr)
  · intro c r hmem hpub hr
    have hc : c ∈ (classesIn body).filter (isPublic ·.name) :=
      List.mem_filter.mpr ⟨mem_classesIn.mpr hmem, hpub⟩
    exact withSample_of_mem.2 r (Result.mem_of_mapM_eq_ok hcs hc hr)

/-- The outline of a file that is not complete is empty. -/
theorem ofText_of_not_complete (path : Path) {code : String} {body : List Stmt}
    (hp : parse code = .ok body) (hc : ¬ Complete body) : ofText path code = emptyModule path := by
  cases hd : definitions path.toString body with
  | ok found => exact absurd ((definitions_isOk_iff path.toString body).mp ⟨found, hd⟩) hc
  | error e => simp only [ofText, hp, hd]

/-- Only the outline of a complete file has functions in it. -/
theorem complete_of_mem_functions {path : Path} {code : String} {body : List Stmt}
    (hp : parse code = .ok body) {r : FunctionRecord} (hr : r ∈ (ofText path code).functions) :
    Complete body := by
  by_contra hc
  rw [ofText_of_not_complete path hp hc] at hr
  exact absurd hr List.not_mem_nil

/-- Only the outline of a complete file has classes in it. -/
theorem complete_of_mem_classes {path : Path} {code : String} {body : List Stmt}
    (hp : parse code = .ok body) {r : ClassRecord} (hr : r ∈ (ofText path code).classes) :
    Complete body := by
  by_contra hc
  rw [ofText_of_not_complete path hp hc] at hr
  exact absurd hr List.not_mem_nil

/-- **What one definition does to the others.** The outline of a file on the disk whose text is source
text can be had. A public function or class that has a record is in it exactly if the file is
complete; if not, the outline is that of an empty file. -/
theorem reported_iff_complete {d : Disk} {path : Path} {code : String} {body : List Stmt}
    (hr : d.read path = .ok code) (hp : parse code = .ok body) :
    ∃ m, ofFile d path = .ok m ∧
      (∀ f r, .functionDef f ∈ body → f.isAsync = false → isPublic f.name = true →
        functionRecord path.toString f = .ok r → (r ∈ m.functions ↔ Complete body)) ∧
      (∀ c r, .classDef c ∈ body → isPublic c.name = true →
        classRecord path.toString c = .ok r → (r ∈ m.classes ↔ Complete body)) ∧
      (¬ Complete body → m = emptyModule path) := by
  refine ⟨ofText path code, ofFile_of_read hr, ?_, ?_, ofText_of_not_complete path hp⟩
  · intro f r hmem ha hpub hrec
    constructor
    · intro hin
      exact complete_of_mem_functions hp hin
    · intro hc
      exact (mem_ofText_of_complete hp hc).1 f r hmem ha hpub hrec
  · intro c r hmem hpub hrec
    constructor
    · intro hin
      exact complete_of_mem_classes hp hin
    · intro hc
      exact (mem_ofText_of_complete hp hc).2 c r hmem hpub hrec

/-- A file with two functions. The first one can be described; the second one, which has the given
name, cannot be. -/
def pairText (second : String) : String :=
  "def a():\n    \"\"\"Returns:\n        int: x\n    \"\"\"\n\ndef " ++ second ++ "():\n    pass\n"

/-- The path of the one file in the current directory. -/
def onlyPath : Path := ⟨.here, ["m.py"]⟩

/-- The disk with the given text as its one file. -/
def onlyDisk (code : String) : Disk := .ofTexts [] [(["m.py"], code)]

/-- As long as the second function is not public, the first one is reported. -/
theorem reported_pairText :
    ∃ body m f r, parse (pairText "_b") = .ok body ∧
      ofFile (onlyDisk (pairText "_b")) onlyPath = .ok m ∧
      .functionDef f ∈ body ∧ functionRecord "m.py" f = .ok r ∧ r ∈ m.functions := by
  have hread : (onlyDisk (pairText "_b")).read onlyPath = .ok (pairText "_b") := by decide +kernel
  have hfound : ((parse (pairText "_b")).toOption.bind fun body =>
      (definitions "m.py" body).toOption).any (!·.1.isEmpty) = true := by decide +kernel
  obtain ⟨⟨fs, cs⟩, hfound, hne⟩ := (Option.any_eq_true _ _).mp hfound
  obtain ⟨body, hbody, hfound⟩ := Option.bind_eq_some_iff.mp hfound
  have hbody := Result.toOption_eq_some.mp hbody
  have hfound := Result.toOption_eq_some.mp hfound
  -- the file is complete, and its first record is that of a public function
  have hcomplete : Complete body := (definitions_isOk_iff "m.py" body).mp ⟨_, hfound⟩
  obtain ⟨r, rs, rfl⟩ := List.exists_cons_of_ne_nil (show fs ≠ [] by simpa using hne)
  obtain ⟨f, _, hr, -, hfs⟩ :=
    List.forall₂_cons_right_iff.mp (Result.mapM_eq_ok.mp (definitions_eq_ok.mp hfound).1)
  obtain ⟨hf, hpub⟩ := List.mem_filter.mp (hfs ▸ List.mem_cons_self)
  obtain ⟨hmem, ha⟩ := mem_functionsIn.mp hf
  obtain ⟨m, hm, hfunctions, -⟩ := reported_iff_complete hread hbody
  exact ⟨body, m, f, r, hbody, hm, hmem, hr, (hfunctions f r hmem ha hpub hr).mpr hcomplete⟩

/-- **One function can take away the record of another.** -/
theorem not_forall_reported :
    ¬ ∀ (d : Disk) (path : Path) (code : String) (body : List Stmt) (m : ModuleRecord),
      d.read path = .ok code → parse code = .ok body → ofFile d path = .ok m →
      ∀ f r, .functionDef f ∈ body → f.isAsync = false → isPublic f.name = true →
        functionRecord path.toString f = .ok r → r ∈ m.functions := by
  intro h
  have hread : (onlyDisk (pairText "b")).read onlyPath = .ok (pairText "b") := by decide +kernel
  have hnone : (ofText onlyPath (pairText "b")).functions = [] := by decide +kernel
  have hfirst : ((parse (pairText "b")).toOption.bind fun body =>
      ((functionsIn body).filter (isPublic ·.name)).head?.bind fun f =>
        (functionRecord "m.py" f).toOption).isSome = true := by decide +kernel
  obtain ⟨r, hr⟩ := Option.isSome_iff_exists.mp hfirst
  obtain ⟨body, hbody, hr⟩ := Option.bind_eq_some_iff.mp hr
  obtain ⟨f, hf, hr⟩ := Option.bind_eq_some_iff.mp hr
  obtain ⟨hf, hpub⟩ := List.mem_filter.mp (List.mem_of_mem_head? hf)
  obtain ⟨hmem, ha⟩ := mem_functionsIn.mp hf
  have hin := h _ onlyPath _ body _ hread (Result.toOption_eq_some.mp hbody)
    (ofFile_of_read hread) f r hmem ha hpub (Result.toOption_eq_some.mp hr)
  rw [hnone] at hin
  exact absurd hin List.not_mem_nil

end Codebook.Outline
