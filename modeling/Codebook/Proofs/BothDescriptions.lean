import Mathlib
import Codebook.Proofs.ReportedNames

/-!
# A file described in both ways

A file is described by running it, or by its text where it cannot be run. Both ways are meant to give
the same definitions. `sameNames_iff_textSuffices` says when they do, for simple files that both ways
can describe: the text leaves out the functions that are asynchronous, and a file of the name of the
sample that defines nothing public is described by the sample.

* `IsOutline.lists`: the names in an outline are those of the functions that are not asynchronous.
* `sameNames_iff_of_lists`: what it takes for such a record to name the same as one that lists all
  functions.
* `not_forall_sameNames`: a file of which the two ways give different names.
-/

namespace Codebook

namespace ModuleRecord

/-- The names in a record, in its order. -/
def names (m : ModuleRecord) : List String × List (String × List String) :=
  (m.functions.map (·.name), m.classes.map fun c => (c.name, c.methods.map (·.name)))

/-- The functions of a record are the first part of its names. -/
theorem mem_functionNames_iff {m : ModuleRecord} {n : String} :
    n ∈ m.functionNames ↔ n ∈ m.names.1 := by
  simp [names]

/-- Records with equal names have the same names. -/
theorem SameNames.of_names_eq {m m' : ModuleRecord} (h : m.names = m'.names) : m.SameNames m' := by
  have hclasses (m : ModuleRecord) (n : String) : n ∈ m.classNames ↔ ∃ c ∈ m.names.2, c.1 = n := by
    simp [classNames, names]
  have hmethods (m : ModuleRecord) (c n : String) :
      n ∈ m.methodNames c ↔ ∃ k ∈ m.names.2, k.1 = c ∧ n ∈ k.2 := by
    simp [methodNames, names]
  refine ⟨Set.ext fun n => ?_, Set.ext fun n => ?_, fun c => Set.ext fun n => ?_⟩
  · rw [mem_functionNames_iff, mem_functionNames_iff, h]
  · rw [hclasses, hclasses, h]
  · rw [hmethods, hmethods, h]

end ModuleRecord

namespace Outline

open Inspection Source

/-! ## The names in an outline -/

/-- A function is recorded under its name. -/
theorem functionRecord_name {path : String} {f : Function} {r : FunctionRecord}
    (h : functionRecord path f = .ok r) : r.name = f.name := by
  obtain ⟨_, _, _, -, -, -, rfl⟩ := functionRecord_eq_ok_iff.mp h
  rfl

/-- The records of functions name them. -/
theorem exists_name_iff {path : String} {wanted : String → Bool} {body : List Stmt}
    {rs : List FunctionRecord}
    (h : Records (function? wanted) (fun f r => functionRecord path f = .ok r) body rs) (n : String) :
    (∃ r ∈ rs, r.name = n) ↔
      wanted n = true ∧ ∃ f, .functionDef f ∈ body ∧ f.isAsync = false ∧ f.name = n := by
  rw [records_iff_forall₂, filterMap_function?] at h
  rw [← exists_mem_iff_of_forall₂ h (P := fun f => f.name = n)
    fun f r hr => by rw [functionRecord_name hr]]
  simp only [List.mem_filter, mem_functionsIn]
  constructor
  · rintro ⟨f, ⟨⟨hf, hasync⟩, hwanted⟩, rfl⟩
    exact ⟨hwanted, f, hf, hasync, rfl⟩
  · rintro ⟨hwanted, f, hf, hasync, rfl⟩
    exact ⟨f, ⟨⟨hf, hasync⟩, hwanted⟩, rfl⟩

/-- An outline lists the functions that are not asynchronous. -/
theorem IsOutline.lists {path : String} {body : List Stmt} {m : ModuleRecord}
    (h : IsOutline path body m) : Lists (·.isAsync = false) body m := by
  have hclasses := h.classes
  rw [records_iff_forall₂, filterMap_publicClass?] at hclasses
  have hdescribes {k : Source.Class} {r : ClassRecord} (hr : IsClassRecord path k r) :
      Describes (·.isAsync = false) k r :=
    ⟨hr.name, exists_name_iff hr.methods⟩
  refine ⟨exists_name_iff h.functions, fun r hr => ?_, fun k hk hpublic => ?_⟩
  · obtain ⟨k, hk, hkr⟩ := exists_of_mem_right hclasses hr
    obtain ⟨hk, hpublic⟩ := List.mem_filter.mp hk
    exact ⟨k, mem_classesIn.mp hk, hpublic, hdescribes hkr⟩
  · have hmem : k ∈ (classesIn body).filter (isPublic ·.name) :=
      List.mem_filter.mpr ⟨mem_classesIn.mpr hk, hpublic⟩
    obtain ⟨r, hr, hkr⟩ := exists_of_mem_left hclasses hmem
    exact ⟨r, hr, hdescribes hkr⟩

/-- The sample stands in for a file of its name that defines nothing public. -/
theorem withSample_ne_iff {path : Path} {body : List Stmt}
    {found : List FunctionRecord × List ClassRecord}
    (hfound : definitions path.toString body = .ok found) :
    withSample path found ≠ found ↔ path.stem = Sample.stem ∧
      (∀ f, .functionDef f ∈ body → isPublic f.name = true → f.isAsync = true) ∧
      ∀ k, .classDef k ∈ body → isPublic k.name = false := by
  obtain ⟨fs, cs⟩ := found
  obtain ⟨hfs, hcs⟩ := definitions_eq_ok.mp hfound
  have hfunctions : fs = [] ↔
      ∀ f, .functionDef f ∈ body → isPublic f.name = true → f.isAsync = true := by
    have hlength := (Result.mapM_eq_ok.mp hfs).length_eq
    rw [← List.length_eq_zero_iff, ← hlength, List.length_eq_zero_iff, List.filter_eq_nil_iff]
    simp only [mem_functionsIn]
    constructor
    · intro h f hf hpublic
      by_contra hasync
      exact h f ⟨hf, by simpa using hasync⟩ hpublic
    · rintro h f ⟨hf, hasync⟩ hpublic
      rw [h f hf hpublic] at hasync
      cases hasync
  have hclasses : cs = [] ↔ ∀ k, .classDef k ∈ body → isPublic k.name = false := by
    have hlength := (Result.mapM_eq_ok.mp hcs).length_eq
    rw [← List.length_eq_zero_iff, ← hlength, List.length_eq_zero_iff, List.filter_eq_nil_iff]
    simp only [mem_classesIn, Bool.not_eq_true]
  rw [← hfunctions, ← hclasses]
  unfold withSample
  split
  · by_cases hstem : path.stem = Sample.stem <;> simp_all
  · rename_i hne
    simp only [ne_eq, not_true_eq_false, false_iff, not_and]
    rintro - rfl rfl
    exact hne rfl

/-- A sample that has been added is among the classes. -/
theorem sampleClass_mem_classNames {path : Path} {code : String} {body : List Stmt}
    (hparse : parse code = .ok body) {found : List FunctionRecord × List ClassRecord}
    (hfound : definitions path.toString body = .ok found) (hsample : withSample path found ≠ found) :
    "TestClass" ∈ (ofText path code).classNames := by
  have hclasses : (withSample path found).2 = [Sample.sampleClass path.toString] := by
    unfold withSample at hsample ⊢
    split at hsample
    · split at hsample
      · rename_i hstem
        rw [if_pos hstem]
      · exact absurd rfl hsample
    · exact absurd rfl hsample
  refine ⟨Sample.sampleClass path.toString, ?_, rfl⟩
  simp only [ofText, hparse, hfound, hclasses, List.mem_singleton]

end Outline

/-! ## Both descriptions -/

namespace Inspection

open Live Outline Source

/-- The text of a file shows all names that running it shows, and no others. Of the public functions
none is asynchronous, every method that is described has its name from a function that is not, and a
file of the name of the sample defines something public. -/
structure TextSuffices (path : Path) (body : List Stmt) : Prop where
  functions : ∀ f, .functionDef f ∈ body → isPublic f.name = true → f.isAsync = false
  methods : ∀ k, .classDef k ∈ body → isPublic k.name = true → ∀ f, .functionDef f ∈ k.body →
    isDescribed f.name = true → ∃ g, .functionDef g ∈ k.body ∧ g.isAsync = false ∧ g.name = f.name
  something : path.stem = Sample.stem → ∃ s ∈ body, ∃ n, s.defined? = some n ∧ isPublic n = true

/-- Two records name the same if they list functions of the same names. -/
theorem sameNames_iff_of_lists {listed : Source.Function → Prop} {body : List Stmt}
    (hnames : (body.filterMap Stmt.defined?).Nodup) {m m' : ModuleRecord}
    (h : Lists (fun _ => True) body m) (h' : Lists listed body m') :
    m.SameNames m' ↔ (∀ f, .functionDef f ∈ body → isPublic f.name = true → listed f) ∧
      ∀ k, .classDef k ∈ body → isPublic k.name = true → ∀ f, .functionDef f ∈ k.body →
        isDescribed f.name = true → ∃ g, .functionDef g ∈ k.body ∧ listed g ∧ g.name = f.name := by
  constructor
  · intro hsame
    constructor
    · intro f hf hpublic
      have hmem : f.name ∈ m.functionNames := (h.functions f.name).mpr ⟨hpublic, f, hf, trivial, rfl⟩
      rw [hsame.functions, h'.functions] at hmem
      obtain ⟨-, g, hg, hlisted, hname⟩ := hmem
      cases eq_of_defined hnames hf hg rfl (congrArg some hname)
      exact hlisted
    · intro k hk hpublic f hf hd
      have hmem : f.name ∈ m.methodNames k.name :=
        h.mem_methodNames.mpr ⟨k, hk, hpublic, rfl, hd, f, hf, trivial, rfl⟩
      rw [hsame.methods, h'.mem_methodNames] at hmem
      obtain ⟨k', hk', -, hname, -, hmethod⟩ := hmem
      cases eq_of_defined hnames hk hk' rfl (congrArg some hname)
      exact hmethod
  · rintro ⟨hfunctions, hmethods⟩
    refine ⟨Set.ext fun n => ?_, Set.ext fun n => ?_, fun c => Set.ext fun n => ?_⟩
    · rw [h.functions, h'.functions]
      constructor
      · rintro ⟨hpublic, f, hf, -, rfl⟩
        exact ⟨hpublic, f, hf, hfunctions f hf hpublic, rfl⟩
      · rintro ⟨hpublic, f, hf, -, rfl⟩
        exact ⟨hpublic, f, hf, trivial, rfl⟩
    · rw [h.mem_classNames, h'.mem_classNames]
    · rw [h.mem_methodNames, h'.mem_methodNames]
      constructor
      · rintro ⟨k, hk, hpublic, hname, hd, f, hf, -, rfl⟩
        exact ⟨k, hk, hpublic, hname, hd, hmethods k hk hpublic f hf hd⟩
      · rintro ⟨k, hk, hpublic, hname, hd, f, hf, -, rfl⟩
        exact ⟨k, hk, hpublic, hname, hd, f, hf, trivial, rfl⟩

/-- A file that was run and described has been read as the text that it is described by. -/
theorem statementsOf_of_live {d : Disk} {path : Path} {code : String} {body : List Stmt} {s t : Store}
    {r : ModuleRecord} (hpy : path.toString.endsWith ".py" = true)
    (hsource : sourceOf d path = some code) (hparse : parse code = .ok body)
    (hlive : (live d path code).run.run s = (.ok r, t)) : statementsOf d path = some body := by
  rw [run_live hpy (unshadowed_of_live hpy hlive)] at hlive
  obtain ⟨_, _, hfill, -⟩ := Run.of_bind_ok hlive
  obtain ⟨body', hbody'⟩ := exists_statements_of_fill hfill
  cases hparse.symm.trans (parse_of_statementsOf hsource hbody')
  exact hbody'

/-- A simple file without imports, in which all names are distinct. It is read as the same text whether
it is run or not, and its text alone gives records. -/
structure Comparable (d : Disk) (path : Path) (code : String) (body : List Stmt) : Prop where
  suffix : path.suffix = ".py"
  read : d.read path = .ok code
  source : sourceOf d path = some code
  parse : parse code = .ok body
  simple : isSimpleBody body = true
  imports : importsIn body = []
  distinct : (body.filterMap Stmt.defined?).Nodup
  complete : Complete body

/-- **When both descriptions of a file agree.** A file that can be compared has been run and described.
The record that was made of it and the one that its text gives name the same functions, classes and
methods if and only if the text suffices. -/
theorem sameNames_iff_textSuffices {d : Disk} {path : Path} {code : String} {body : List Stmt}
    (h : Comparable d path code body) {s t : Store} {r : ModuleRecord}
    (hlive : (live d path code).run.run s = (.ok r, t)) :
    (inspect true d path s).1 = .ok r ∧ outlined d path = .ok (ofText path code) ∧
      (r.SameNames (ofText path code) ↔ TextSuffices path body) := by
  obtain ⟨hpy, hr, hsource, hparse, hsimple, himports, hnames, hcomplete⟩ := h
  have hstatements := statementsOf_of_live (Path.endsWith_of_suffix hpy) hsource hparse hlive
  have hlists := lists_live (Path.endsWith_of_suffix hpy) hstatements hsimple himports hlive hnames
  obtain ⟨found, hfound⟩ := (definitions_isOk_iff path.toString body).mpr hcomplete
  have hinspect : (inspect true d path s).1 = .ok r := by
    rw [inspect_of_live hr hlive]
  refine ⟨hinspect, outlined_of_read hr, ?_⟩
  by_cases hsample : withSample path found = found
  · have houtline := (ofText_of_found hparse hfound hsample).1.lists
    rw [sameNames_iff_of_lists hnames hlists houtline]
    refine ⟨fun hshown => ⟨hshown.1, hshown.2, fun hstem => ?_⟩, fun h => ⟨h.functions, h.methods⟩⟩
    by_contra hnone
    push Not at hnone
    refine (withSample_ne_iff hfound).mpr ⟨hstem, fun f hf hpublic => ?_, fun k hk => ?_⟩ hsample
    · exact absurd hpublic (hnone _ hf _ rfl)
    · simpa using hnone _ hk _ rfl
  · -- the sample has a class, and the file has none
    obtain ⟨hstem, hfunctions, hclasses⟩ := (withSample_ne_iff hfound).mp hsample
    refine iff_of_false (fun hsame => ?_) fun h => ?_
    · have hmem := sampleClass_mem_classNames hparse hfound hsample
      rw [← hsame.classes, hlists.mem_classNames] at hmem
      obtain ⟨hpublic, k, hk, hname⟩ := hmem
      rw [← hname, hclasses k hk] at hpublic
      cases hpublic
    · obtain ⟨st, hst, n, hn, hpublic⟩ := h.something hstem
      cases st with
      | functionDef f =>
        cases hn
        have hasync := h.functions f hst hpublic
        rw [hfunctions f hst hpublic] at hasync
        cases hasync
      | classDef k =>
        cases hn
        rw [hclasses k hst] at hpublic
        cases hpublic
      | _ => cases hn

/-- A file with a class, one of whose methods is defined twice and asynchronous at first, and a
function. -/
def twiceText : String :=
  "class K:\n async def g():'Returns:\\nn: m'\n def g():'Returns:\\nn: m'\ndef f():'Returns:\\nn: m'\n"

/-- A file with an asynchronous function. -/
def asyncText : String :=
  "async def f():\n    'Returns:\\nint: x'\n"

/-- The only file on a disk can be compared. -/
def isComparable (code : String) : Bool :=
  decide ((onlyDisk code).read onlyPath = .ok code) && sourceOf (onlyDisk code) onlyPath == some code &&
    (parse code).toOption.any fun body =>
      isSimpleBody body && (importsIn body).isEmpty && decide (body.filterMap Stmt.defined?).Nodup &&
        (definitions onlyPath.toString body).toOption.isSome

/-- A text that passes the test can be compared. -/
theorem exists_comparable {code : String} (h : isComparable code = true) :
    ∃ body, Comparable (onlyDisk code) onlyPath code body := by
  simp only [isComparable, Bool.and_eq_true, decide_eq_true_eq, beq_iff_eq, Option.any_eq_true] at h
  obtain ⟨⟨hread, hsource⟩, body, hbody, ⟨⟨hsimple, himports⟩, hdistinct⟩, hfound⟩ := h
  obtain ⟨found, hfound⟩ := Option.isSome_iff_exists.mp hfound
  exact ⟨body, {
    suffix := by decide +kernel
    read := hread
    source := hsource
    parse := Result.toOption_eq_some.mp hbody
    simple := hsimple
    imports := List.isEmpty_iff.mp himports
    distinct := hdistinct
    complete := (definitions_isOk_iff _ body).mp ⟨found, Result.toOption_eq_some.mp hfound⟩ }⟩

/-- The record of the only file on a disk that is run first of all, if it has one. -/
def liveOnly? (code : String) : Option ModuleRecord :=
  ((live (onlyDisk code) onlyPath code).run.run .empty).1.toOption

/-- A description of the text comes from a run. -/
theorem exists_run {code : String} {r : ModuleRecord} (h : liveOnly? code = some r) :
    ∃ t, (live (onlyDisk code) onlyPath code).run.run .empty = (.ok r, t) := by
  rw [liveOnly?, Result.toOption_eq_some] at h
  exact ⟨_, Prod.ext h rfl⟩

/-- The first file can be compared, and both descriptions name the same. -/
theorem comparable_and_names_twiceText : isComparable twiceText = true ∧
    (liveOnly? twiceText).map (·.names) = some (["f"], [("K", ["g"])]) ∧
      (ofText onlyPath twiceText).names = (["f"], [("K", ["g"])]) := by
  decide +kernel

/-- The second file can be compared, and only running it names the function. -/
theorem comparable_and_names_asyncText : isComparable asyncText = true ∧
    (liveOnly? asyncText).map (·.names) = some (["f"], []) ∧
      (ofText onlyPath asyncText).names = ([], []) := by
  decide +kernel

/-- The asynchronous method of the first file has a companion, so that the text suffices. -/
theorem sameNames_iff_textSuffices_twiceText :
    ∃ body r t, Comparable (onlyDisk twiceText) onlyPath twiceText body ∧
      (live (onlyDisk twiceText) onlyPath twiceText).run.run .empty = (.ok r, t) ∧
      r.SameNames (ofText onlyPath twiceText) ∧ TextSuffices onlyPath body := by
  obtain ⟨hcomparable, hlive, houtline⟩ := comparable_and_names_twiceText
  obtain ⟨body, hbody⟩ := exists_comparable hcomparable
  obtain ⟨r, hr, hnames⟩ := Option.map_eq_some_iff.mp hlive
  obtain ⟨t, hrun⟩ := exists_run hr
  have hsame : r.SameNames (ofText onlyPath twiceText) :=
    .of_names_eq (hnames.trans houtline.symm)
  exact ⟨body, r, t, hbody, hrun, hsame, (sameNames_iff_textSuffices hbody hrun).2.2.mp hsame⟩

/-- **The two descriptions can differ.** A public function that is asynchronous is described if the
file is run, and is not in the outline of its text. -/
theorem not_forall_sameNames :
    ¬ ∀ (d : Disk) (path : Path) (code : String) (body : List Stmt) (s t : Store) (r : ModuleRecord),
      Comparable d path code body → (live d path code).run.run s = (.ok r, t) →
        r.SameNames (ofText path code) := by
  intro h
  obtain ⟨hcomparable, hlive, houtline⟩ := comparable_and_names_asyncText
  obtain ⟨body, hbody⟩ := exists_comparable hcomparable
  obtain ⟨r, hr, hnames⟩ := Option.map_eq_some_iff.mp hlive
  obtain ⟨t, hrun⟩ := exists_run hr
  have hmem : "f" ∈ r.functionNames := by
    rw [ModuleRecord.mem_functionNames_iff, hnames]
    exact List.mem_singleton.mpr rfl
  rw [(h _ _ _ body _ t r hbody hrun).functions, ModuleRecord.mem_functionNames_iff, houtline] at hmem
  cases hmem

end Inspection

end Codebook
