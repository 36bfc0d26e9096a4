import Mathlib
import Codebook.Proofs.Examinations
import Codebook.Proofs.Outlines

/-!
# The outline of a file, statement by statement

`Records pick record body rs` goes through the statements of a body: those that `pick` picks have
their records in `rs`, in the same order, and all others are passed over. With it the outline of a
file is given by its text alone.

* `records_iff_forall₂`: the statements that are picked and their records stand in a row.
* `functionRecord_origin`, `classRecord_eq_ok_iff`: what the records of a function and of a class are.
* `ofText_of_extractable`: the outline of a file of which every definition has a record.
* `outline_exact`: the outline is this one, or that of an empty file if the text is no source text or
  one definition has no record. Where files must not be run, their inspection gives the same.
-/

namespace Codebook.Outline

open Source

/-! ## Statements and records -/

/-- `rs` are the records of the statements that are picked, in their order. -/
inductive Records {α β : Type} (pick : Stmt → Option α) (record : α → β → Prop) :
    List Stmt → List β → Prop
  | nil : Records pick record [] []
  | recorded {s : Stmt} {a : α} {r : β} {body : List Stmt} {rs : List β} (picked : pick s = some a)
      (made : record a r) (rest : Records pick record body rs) :
      Records pick record (s :: body) (r :: rs)
  | passed {s : Stmt} {body : List Stmt} {rs : List β} (other : pick s = none)
      (rest : Records pick record body rs) : Records pick record (s :: body) rs

/-- Records go with the statements that are picked, in order. -/
theorem records_iff_forall₂ {α β : Type} {pick : Stmt → Option α} {record : α → β → Prop}
    {body : List Stmt} {rs : List β} :
    Records pick record body rs ↔ List.Forall₂ record (body.filterMap pick) rs := by
  constructor
  · intro h
    induction h with
    | nil => exact .nil
    | recorded picked made rest ih =>
      rw [List.filterMap_cons_some picked]
      exact .cons made ih
    | passed other rest ih =>
      rw [List.filterMap_cons_none other]
      exact ih
  · intro h
    induction body generalizing rs with
    | nil =>
      cases h
      exact .nil
    | cons s body ih =>
      cases hs : pick s with
      | none =>
        rw [List.filterMap_cons_none hs] at h
        exact .passed hs (ih h)
      | some a =>
        rw [List.filterMap_cons_some hs] at h
        cases h with
        | cons made rest => exact .recorded hs made (ih rest)

/-- There are no records but those of statements that are picked. -/
theorem Records.exists_of_mem {α β : Type} {pick : Stmt → Option α} {record : α → β → Prop}
    {body : List Stmt} {rs : List β} (h : Records pick record body rs) {r : β} (hr : r ∈ rs) :
    ∃ a, record a r := by
  induction h with
  | nil => exact absurd hr List.not_mem_nil
  | recorded picked made rest ih =>
    rcases List.mem_cons.mp hr with rfl | hr
    · exact ⟨_, made⟩
    · exact ih hr
  | passed other rest ih => exact ih hr

/-- The function that a statement defines, if it is not asynchronous and has a name that is wanted. -/
def function? (wanted : String → Bool) : Stmt → Option Function
  | .functionDef f => if !f.isAsync && wanted f.name then some f else none
  | _ => none

/-- The class that a statement defines, if it is public. -/
def publicClass? : Stmt → Option Source.Class
  | .classDef c => if isPublic c.name then some c else none
  | _ => none

/-- The functions that are picked are those with wanted names. -/
theorem filterMap_function? (wanted : String → Bool) (body : List Stmt) :
    body.filterMap (function? wanted) = (functionsIn body).filter (wanted ·.name) := by
  rw [functionsIn, List.filter_filterMap]
  congr 1
  funext s
  cases s with
  | functionDef f =>
    cases ha : f.isAsync <;> cases hw : wanted f.name <;> simp [function?, ha, hw, Option.filter]
  | _ => rfl

/-- The classes that are picked are the public ones. -/
theorem filterMap_publicClass? (body : List Stmt) :
    body.filterMap publicClass? = (classesIn body).filter (isPublic ·.name) := by
  rw [classesIn, List.filter_filterMap]
  congr 1
  funext s
  cases s with
  | classDef c => cases hp : isPublic c.name <;> simp [publicClass?, hp, Option.filter]
  | _ => rfl

/-! ## Functions and classes -/

/-- The record of a function names its file. -/
theorem functionRecord_origin {path : String} {f : Function} {r : FunctionRecord}
    (h : functionRecord path f = .ok r) : r.origin.file = path ∧ r.modulePath = path := by
  obtain ⟨_, _, _, -, -, -, rfl⟩ := functionRecord_eq_ok_iff.mp h
  exact ⟨rfl, rfl⟩

/-- The methods of a class, public or setting up an instance, have these records, in order. -/
def MethodRecords (path : String) (c : Source.Class) (rs : List FunctionRecord) : Prop :=
  Records (function? isDescribed) (fun f r => functionRecord path f = .ok r) c.body rs

/-- The record is that of the class. -/
structure IsClassRecord (path : String) (c : Source.Class) (r : ClassRecord) : Prop where
  name : r.name = c.name
  docstring : r.docstring = docstring? c.body
  methods : MethodRecords path c r.methods
  origin : r.origin = originOf path
  modulePath : r.modulePath = path

/-- A class is recorded as its record says. -/
theorem classRecord_eq_ok_iff {path : String} {c : Source.Class} {r : ClassRecord} :
    classRecord path c = .ok r ↔ IsClassRecord path c r := by
  have hmethods : ∀ ms, MethodRecords path c ms ↔
      ((functionsIn c.body).filter (isDescribed ·.name)).mapM (functionRecord path) = .ok ms := by
    intro ms
    rw [MethodRecords, records_iff_forall₂, filterMap_function?, Result.mapM_eq_ok]
  unfold classRecord
  constructor
  · intro h
    obtain ⟨ms, hms, h⟩ := Result.bind_eq_ok.mp h
    rw [← Except.ok.inj h]
    exact ⟨rfl, rfl, (hmethods ms).mpr hms, rfl, rfl⟩
  · rintro ⟨hname, hdoc, hms, horigin, hpath⟩
    rcases r with ⟨origin, name, docstring, methods, modulePath⟩
    simp only at hname hdoc horigin hpath
    subst hname hdoc horigin hpath
    exact Result.bind_eq_ok.mpr ⟨methods, (hmethods methods).mp hms, rfl⟩

/-! ## Files -/

/-- Every definition of the file that is to be described has a record: each public function, and each
method of a public class that is public or sets up an instance. -/
structure Extractable (path : String) (body : List Stmt) : Prop where
  functions : ∀ f, .functionDef f ∈ body → f.isAsync = false → isPublic f.name = true →
    ∃ r, functionRecord path f = .ok r
  methods : ∀ c, .classDef c ∈ body → isPublic c.name = true → ∀ f, .functionDef f ∈ c.body →
    f.isAsync = false → isDescribed f.name = true → ∃ r, functionRecord path f = .ok r

/-- A body can be extracted exactly if it is complete. -/
theorem extractable_iff_complete (path : String) (body : List Stmt) :
    Extractable path body ↔ Complete body := by
  constructor
  · intro h
    refine ⟨?_, ?_⟩
    · intro f hf ha hp
      exact (functionRecord_isOk_iff path f).mp (h.functions f hf ha hp)
    · intro c hc hp f hf ha hd
      exact (functionRecord_isOk_iff path f).mp (h.methods c hc hp f hf ha hd)
  · intro h
    refine ⟨?_, ?_⟩
    · intro f hf ha hp
      exact (functionRecord_isOk_iff path f).mpr (h.functions f hf ha hp)
    · intro c hc hp f hf ha hd
      exact (functionRecord_isOk_iff path f).mpr (h.methods c hc hp f hf ha hd)

/-- All records of a module name its file. -/
structure NamesFile (path : String) (m : ModuleRecord) : Prop where
  module : m.origin.file = path
  functions : ∀ f ∈ m.functions, f.origin.file = path ∧ f.modulePath = path
  classes : ∀ c ∈ m.classes, c.origin.file = path ∧ c.modulePath = path ∧
    ∀ f ∈ c.methods, f.origin.file = path ∧ f.modulePath = path

/-- The functions and classes of the module are those that the statements define, in their order. -/
structure IsOutline (path : String) (body : List Stmt) (m : ModuleRecord) : Prop where
  functions : Records (function? isPublic) (fun f r => functionRecord path f = .ok r) body m.functions
  classes : Records publicClass? (IsClassRecord path) body m.classes

/-- An outline names its file throughout. -/
theorem IsOutline.namesFile {path : String} {body : List Stmt} {m : ModuleRecord}
    (h : IsOutline path body m) (hm : m.origin.file = path) : NamesFile path m := by
  refine ⟨hm, ?_, ?_⟩
  · intro r hr
    obtain ⟨f, hf⟩ := h.functions.exists_of_mem hr
    exact functionRecord_origin hf
  · intro r hr
    obtain ⟨c, hc⟩ := h.classes.exists_of_mem hr
    refine ⟨by rw [hc.origin]; rfl, hc.modulePath, ?_⟩
    intro g hg
    obtain ⟨f, hf⟩ := hc.methods.exists_of_mem hg
    exact functionRecord_origin hf

/-- Only a file of the sample's name is described by the sample. -/
theorem withSample_of_ne {path : Path} (hs : path.stem ≠ Sample.stem)
    (found : List FunctionRecord × List ClassRecord) : withSample path found = found := by
  unfold withSample
  split
  · rw [if_neg (by simpa using hs)]
  · rfl

/-- A file that is not described by the sample is described by what its statements define. -/
theorem ofText_of_found {path : Path} {code : String} {body : List Stmt} (hp : parse code = .ok body)
    {found : List FunctionRecord × List ClassRecord}
    (hfound : definitions path.toString body = .ok found) (hs : withSample path found = found) :
    IsOutline path.toString body (ofText path code) ∧
      (ofText path code).docstring = moduleDocstring code body := by
  obtain ⟨fs, cs⟩ := found
  obtain ⟨hfs, hcs⟩ := definitions_eq_ok.mp hfound
  simp only [ofText, hp, hfound, hs]
  refine ⟨⟨?_, ?_⟩, trivial⟩
  · rw [records_iff_forall₂, filterMap_function?]
    exact Result.mapM_eq_ok.mp hfs
  · rw [records_iff_forall₂, filterMap_publicClass?]
    exact (Result.mapM_eq_ok.mp hcs).imp fun c r hr => classRecord_eq_ok_iff.mp hr

/-- A file of which every definition has a record is described by what its statements define. -/
theorem ofText_of_extractable {path : Path} (hs : path.stem ≠ Sample.stem) {code : String}
    {body : List Stmt} (hp : parse code = .ok body) (he : Extractable path.toString body) :
    IsOutline path.toString body (ofText path code) ∧
      (ofText path code).docstring = moduleDocstring code body := by
  obtain ⟨found, hfound⟩ :=
    (definitions_isOk_iff path.toString body).mpr ((extractable_iff_complete _ body).mp he)
  exact ofText_of_found hp hfound (withSample_of_ne hs found)

/-- All other files are described like empty ones. -/
theorem ofText_of_not_extractable (path : Path) {code : String}
    (h : ¬ ∃ body, parse code = .ok body ∧ Extractable path.toString body) :
    ofText path code = emptyModule path := by
  cases hp : parse code with
  | error e => simp only [ofText, hp]
  | ok body =>
    refine ofText_of_not_complete path hp fun hc => h ⟨body, hp, ?_⟩
    exact (extractable_iff_complete _ body).mpr hc

/-- An outline has the name of the file. -/
theorem ofText_name (path : Path) (code : String) : (ofText path code).name = path.stem := by
  unfold ofText
  split
  · rfl
  · split
    · rfl
    · rfl

/-- **The outline of a file.** A file that can be read has an outline, unless it is of the sample's
name. If its text is source text and every definition that is to be described has a record, the
outline has exactly the public functions of the file and exactly its public classes, each in the order
of the text, the classes with their methods; in every other case it has no functions, no classes and
no docstring. Its name is that of the file without the suffix, all of its records name the file, and
an inspection that must not run the file gives the same. -/
theorem outline_exact {d : Disk} {path : Path} {code : String} (hr : d.read path = .ok code)
    (hs : path.stem ≠ "test_module") :
    ∃ m, ofFile d path = .ok m ∧ (∀ s, (Inspection.inspect false d path s).1 = .ok m) ∧
      m.name = path.stem ∧ NamesFile path.toString m ∧
      (∀ body, parse code = .ok body → Extractable path.toString body →
        IsOutline path.toString body m ∧ m.docstring = moduleDocstring code body) ∧
      ((¬ ∃ body, parse code = .ok body ∧ Extractable path.toString body) →
        m.functions = [] ∧ m.classes = [] ∧ m.docstring = none) := by
  refine ⟨ofText path code, ofFile_of_read hr, ?_, ofText_name path code, ?_, ?_, ?_⟩
  · intro s
    rw [Inspection.inspect_refused hr s, Inspection.outlined_of_read hr]
  · by_cases h : ∃ body, parse code = .ok body ∧ Extractable path.toString body
    · obtain ⟨body, hp, he⟩ := h
      exact (ofText_of_extractable hs hp he).1.namesFile (ofText_file path code)
    · rw [ofText_of_not_extractable path h]
      exact ⟨rfl, fun _ hf => absurd hf List.not_mem_nil, fun _ hc => absurd hc List.not_mem_nil⟩
  · intro body hp he
    exact ofText_of_extractable hs hp he
  · intro h
    rw [ofText_of_not_extractable path h]
    exact ⟨rfl, rfl, rfl⟩

/-- A file with an asynchronous function, a class with one method that is described and one that is
not, and a public function. -/
def variedText : String :=
  "async def b(): 0\nclass K:\n def __init__(s):\n  'Returns:\\nn: m'\n def _c(s): 0\n" ++
  "def f():\n 'Returns:\\nn: m'\n"

/-- The outline of that file has its public function and its class with one method. -/
theorem outline_exact_variedText :
    (onlyDisk variedText).read onlyPath = .ok variedText ∧ onlyPath.stem ≠ "test_module" ∧
      ∃ body m, parse variedText = .ok body ∧ Extractable "m.py" body ∧
        ofFile (onlyDisk variedText) onlyPath = .ok m ∧ IsOutline "m.py" body m ∧
        m.functions.map (·.name) = ["f"] ∧
        m.classes.map (fun c => (c.name, c.methods.map (·.name))) = [("K", ["__init__"])] := by
  have hread : (onlyDisk variedText).read onlyPath = .ok variedText := by decide +kernel
  have hstem : onlyPath.stem ≠ "test_module" := by decide +kernel
  have hfound : ((parse variedText).toOption.bind fun body =>
      (definitions "m.py" body).toOption).any (fun found =>
        (found.1.map (·.name), found.2.map fun c => (c.name, c.methods.map (·.name))) =
          (["f"], [("K", ["__init__"])])) = true := by decide +kernel
  obtain ⟨found, hfound, hnames⟩ := (Option.any_eq_true _ _).mp hfound
  obtain ⟨body, hbody, hfound⟩ := Option.bind_eq_some_iff.mp hfound
  have hbody := Result.toOption_eq_some.mp hbody
  have hfound := Result.toOption_eq_some.mp hfound
  have hext : Extractable "m.py" body := (extractable_iff_complete _ body).mpr
    ((definitions_isOk_iff "m.py" body).mp ⟨found, hfound⟩)
  obtain ⟨m, hm, -, -, -, hout, -⟩ := outline_exact hread hstem
  -- what was found is what the outline has
  have htext : ofText onlyPath variedText = m := Except.ok.inj ((ofFile_of_read hread).symm.trans hm)
  have hsame : ((ofText onlyPath variedText).functions, (ofText onlyPath variedText).classes) =
      found := by
    have hpath : onlyPath.toString = "m.py" := by decide +kernel
    simp only [ofText, hbody, hpath, hfound, withSample_of_ne hstem]
  rw [htext] at hsame
  rw [← hsame] at hnames
  obtain ⟨hfunctions, hclasses⟩ := Prod.mk.inj (of_decide_eq_true hnames)
  exact ⟨hread, hstem, body, m, hbody, hext, hm, (hout body hbody hext).1, hfunctions, hclasses⟩

end Codebook.Outline
