import Mathlib
import Codebook.CommandLine
import Codebook.Proofs.Collections
import Codebook.Proofs.JsonDocuments
import Codebook.Proofs.Result
import Codebook.Proofs.WrittenFiles

/-!
# Reports of the command that examines

The command comes to its end in one of a few ways: the search fails, an exception stops the
program, there is no document, or the document is shown or written to a file. All that is said here
of its report is derived from these.

* `document_eq_error_iff`: there is no document if a name stands for no section, and none for a
  value that cannot be written or is too deep.
* `examine_sections`: sections that are asked for by name are written in the order of their names if
  their text has an encoding, and with a name of no section nothing is written.
* `not_forall_examine_sections`: a docstring that names half of a character leaves the file empty.
* `Fails`, `reports_failure_iff`: the causes of failure are just those that the command reports.
* `exit_tells_iff`: the program exits with zero all the same, so that its exit code agrees with the
  report only where there is no failure to tell of.
-/

namespace Codebook.Command.Examine

open Document Text

variable {registry : Registry} {d : Disk} {r : Request} {s : Live.Store}

/-! ## Documents -/

/-- The name stands for a section, in whatever case it is written. -/
def IsSectionName (n : String) : Prop :=
  lower n ∈ ["title", "toc", "modules"]

instance (n : String) : Decidable (IsSectionName n) :=
  inferInstanceAs (Decidable (_ ∈ _))

/-- What is written for a name of a section. -/
def sectionText (ms : List ModuleRecord) (n : String) : String :=
  if lower n = "title" then Section.render ms .title
  else if lower n = "toc" then Section.render ms .contents
  else if lower n = "modules" then Section.render ms .modules
  else ""

/-- A name that is read as no section is not the name of one. -/
theorem ofName?_eq_none_iff {n : String} :
    Section.ofName? (lower n) = none ↔ ¬ IsSectionName n := by
  unfold IsSectionName Section.ofName?
  split <;> simp_all

/-- A section is written by its name. -/
theorem render_of_ofName? {n : String} {sec : Section} (h : Section.ofName? (lower n) = some sec)
    (ms : List ModuleRecord) : Section.render ms sec = sectionText ms n := by
  unfold Section.ofName? at h
  split at h <;> simp_all [sectionText]

/-- A name that is no section is reported. -/
theorem sectionsOf_cons_of_none {n : String} (h : Section.ofName? (lower n) = none)
    (names : List String) : sectionsOf (n :: names) = .error (lower n) := by
  rw [sectionsOf, List.mapM_cons]
  dsimp only
  rw [h]
  rfl

/-- A section is followed by the others. -/
theorem sectionsOf_cons_of_some {n : String} {sec : Section}
    (h : Section.ofName? (lower n) = some sec) (names : List String) :
    sectionsOf (n :: names) = (sectionsOf names).map (sec :: ·) := by
  rw [sectionsOf, List.mapM_cons]
  dsimp only
  rw [h]
  change (sectionsOf names >>= fun secs => .ok (sec :: secs)) = _
  cases sectionsOf names <;> rfl

/-- All names stand for sections, or the error tells of one that does not. -/
theorem sectionsOf_cases (names : List String) :
    (∃ secs, sectionsOf names = .ok secs ∧ (∀ n ∈ names, IsSectionName n) ∧
      ∀ ms, markdown secs ms = String.join (names.map (sectionText ms))) ∨
    ∃ n, sectionsOf names = .error (lower n) ∧ n ∈ names ∧ ¬ IsSectionName n := by
  induction names with
  | nil => exact .inl ⟨[], rfl, by simp, fun _ => rfl⟩
  | cons n names ih =>
    cases hn : Section.ofName? (lower n) with
    | none =>
      have hunknown := ofName?_eq_none_iff.mp hn
      exact .inr ⟨n, sectionsOf_cons_of_none hn names, List.mem_cons_self, hunknown⟩
    | some sec =>
      have hknown : IsSectionName n := by
        by_contra hunknown
        rw [ofName?_eq_none_iff.mpr hunknown] at hn
        cases hn
      rw [sectionsOf_cons_of_some hn]
      rcases ih with ⟨secs, hsecs, hall, htext⟩ | ⟨n', hn', hmem, hunknown⟩
      · refine .inl ⟨sec :: secs, by rw [hsecs]; rfl, ?_, fun ms => ?_⟩
        · exact List.forall_mem_cons.mpr ⟨hknown, hall⟩
        · rw [markdown, List.map_cons, String.join_cons, List.map_cons, String.join_cons,
            render_of_ofName? hn, ← htext, markdown]
      · exact .inr ⟨n', by rw [hn']; rfl, List.mem_cons_of_mem _ hmem, hunknown⟩

/-- Why there is no document of some modules. -/
inductive Request.NoDocument (r : Request) (ms : List ModuleRecord) : Prop
  | name {names : List String} {n : String} (hformat : r.format = .markdown)
      (hsections : r.sections = some names) (hn : n ∈ names) (hunknown : ¬ IsSectionName n)
  | value {m : ModuleRecord} {f : FunctionRecord} {e : Error} (hformat : r.format = .json)
      (hm : m ∈ ms) (hf : f ∈ m.allFunctions) (hvalue : f.Holds e)
  | depth (hformat : r.format = .json) (hdepth : usualRoom < depth (dataOf ms))

/-- Modules have no JSON document if they are too deep or hold a value that cannot be written. -/
theorem json_eq_error_iff {rd : Reading} {room : Nat} {ms : List ModuleRecord} :
    (∃ e, json rd room ms = .error e) ↔
      room < depth (dataOf ms) ∨ ∃ m ∈ ms, ∃ f ∈ m.allFunctions, ∃ e, f.Holds e := by
  rcases Nat.lt_or_ge room (depth (dataOf ms)) with hdeep | hdepth
  · exact iff_of_true ⟨_, json_of_deep hdeep⟩ (.inl hdeep)
  · cases hfaults : faultsOf ms with
    | nil =>
      have hnone : ¬ ∃ m ∈ ms, ∃ f ∈ m.allFunctions, ∃ e, f.Holds e := by
        rintro ⟨m, hm, f, hf, e, he⟩
        have hmem := mem_faultsOf_iff.mpr ⟨m, hm, f, hf, he⟩
        rw [hfaults] at hmem
        cases hmem
      simp [json_of_no_fault hdepth hfaults, hnone, Nat.not_lt.mpr hdepth]
    | cons e rest =>
      obtain ⟨m, hm, f, hf, he⟩ := mem_faultsOf_iff.mp (hfaults ▸ List.mem_cons_self)
      exact iff_of_true ⟨e, json_of_fault hdepth hfaults⟩ (.inr ⟨m, hm, f, hf, e, he⟩)

/-- The causes of a missing document. -/
theorem document_eq_error_iff {ms : List ModuleRecord} :
    (∃ lines, r.document ms = .error lines) ↔ r.NoDocument ms := by
  constructor
  · rintro ⟨lines, h⟩
    unfold Request.document at h
    split at h
    · next name names hformat hsections =>
      rcases sectionsOf_cases (name :: names) with ⟨secs, hsecs, -⟩ | ⟨n, -, hn, hunknown⟩
      · rw [hsecs] at h
        cases h
      · exact .name hformat hsections hn hunknown
    · cases hformat : r.format with
      | markdown =>
        rw [hformat] at h
        cases h
      | json =>
        rw [hformat] at h
        cases hjson : json .halves usualRoom ms with
        | ok text =>
          rw [render, hjson] at h
          cases h
        | error e =>
          rcases json_eq_error_iff.mp ⟨e, hjson⟩ with hdepth | ⟨m, hm, f, hf, e, hvalue⟩
          · exact .depth hformat hdepth
          · exact .value hformat hm hf hvalue
  · intro h
    have hjson (hformat : r.format = .json) (h : ∃ e, json .halves usualRoom ms = .error e) :
        ∃ lines, r.document ms = .error lines := by
      obtain ⟨e, he⟩ := h
      exact ⟨[errorLine e.message], by simp only [Request.document, hformat, render, he]; rfl⟩
    cases h with
    | @name names n hformat hsections hn hunknown =>
      rcases sectionsOf_cases names with ⟨-, -, hall, -⟩ | ⟨n', hn', -, -⟩
      · exact absurd (hall n hn) hunknown
      · cases names with
        | nil => cases hn
        | cons name names =>
          simp only [Request.document, hformat, hsections, hn', Except.error.injEq, exists_eq']
    | value hformat hm hf hvalue =>
      exact hjson hformat (json_eq_error_iff.mpr (.inr ⟨_, hm, _, hf, _, hvalue⟩))
    | depth hformat hdepth => exact hjson hformat (json_eq_error_iff.mpr (.inl hdepth))

/-- The document of sections that are asked for by name. -/
theorem document_of_sections {ms : List ModuleRecord} {names : List String}
    (hformat : r.format = .markdown) (hsections : r.sections = some names) (hnames : names ≠ [])
    (hknown : ∀ n ∈ names, IsSectionName n) :
    r.document ms = .ok (String.join (names.map (sectionText ms))) := by
  rcases sectionsOf_cases names with ⟨secs, hsecs, -, htext⟩ | ⟨n, -, hn, hunknown⟩
  · rw [← htext]
    cases names with
    | nil => exact absurd rfl hnames
    | cons name names => simp only [Request.document, hformat, hsections, hsecs]
  · exact absurd (hknown n hn) hunknown

/-- A JSON document has no sections. -/
theorem document_of_json (h : r.format = .json) (sections : Option (List String))
    (ms : List ModuleRecord) : { r with sections }.document ms = r.document ms := by
  simp only [Request.document, h]

/-! ## The way of a request -/

/-- The modules that were found, where no exception stopped the program. -/
def Examined (registry : Registry) (d : Disk) (r : Request) (s : Live.Store)
    (ms : List ModuleRecord) : Prop :=
  ∃ st, Examination.examineDirectory registry d r.options r.directory s = .ok st ∧
    st.escaped = none ∧ st.extraction.modules = ms

/-- A failed search is reported. -/
theorem run_of_search_error {e : Search.Error}
    (h : Search.find d r.options r.directory = .error e) :
    (run registry d r s).code = 1 ∧ (run registry d r s).escaped = none := by
  have hexamine : Examination.examineDirectory registry d r.options r.directory s = .error e := by
    rw [Examination.examineDirectory, h]
    rfl
  unfold run
  rw [hexamine]
  exact ⟨rfl, rfl⟩

/-- A document that cannot be written is reported, and no file is touched. -/
theorem run_of_document_error {ms : List ModuleRecord} (h : Examined registry d r s ms)
    {lines : List Shown} (hdocument : r.document ms = .error lines) :
    (run registry d r s).code = 1 ∧ (run registry d r s).disk = d ∧
      (run registry d r s).escaped = none := by
  obtain ⟨st, hst, hescaped, rfl⟩ := h
  unfold run
  simp only [hst, hescaped, hdocument, and_self]

/-- A document that can be written is delivered. -/
theorem run_of_document {ms : List ModuleRecord} (h : Examined registry d r s ms) {text : String}
    (hdocument : r.document ms = .ok text) :
    ∃ console printed,
      run registry d r s = deliver r text ⟨0, console, printed, d, none⟩ := by
  obtain ⟨st, hst, hescaped, rfl⟩ := h
  unfold run
  simp only [hst, hescaped, hdocument]
  exact ⟨_, _, rfl⟩

/-- The search fails, an exception escapes, or the modules are described. -/
theorem run_cases (registry : Registry) (d : Disk) (r : Request) (s : Live.Store) :
    (∃ e, Search.find d r.options r.directory = .error e) ∨
      (∃ e, (run registry d r s).escaped = some e) ∨ ∃ ms, Examined registry d r s ms := by
  cases hfind : Search.find d r.options r.directory with
  | error e => exact .inl ⟨e, rfl⟩
  | ok files =>
    have hexamine : Examination.examineDirectory registry d r.options r.directory s =
        .ok (Examination.examineFiles registry d files s) := by
      rw [Examination.examineDirectory, hfind]
      rfl
    cases hescaped : (Examination.examineFiles registry d files s).escaped with
    | none => exact .inr (.inr ⟨_, _, hexamine, hescaped, rfl⟩)
    | some e =>
      refine .inr (.inl ⟨e, ?_⟩)
      unfold run
      simp only [hexamine, hescaped]

/-- A file is written, and the code says whether that failed. -/
theorem deliver_of_file {file text : String} (hfile : r.outputFile = some file) (hne : file ≠ "")
    (before : Report) :
    (deliver r text before).disk = (before.disk.write (Path.ofString file) text).2 ∧
      (deliver r text before).escaped = before.escaped ∧
      (deliver r text before).code =
        if (before.disk.write (Path.ofString file) text).1 = none then before.code else 1 := by
  unfold deliver
  rw [hfile]
  split
  · next h => cases h
  · next h => exact absurd (Option.some.inj h) hne
  · next file' _ h =>
    obtain rfl := Option.some.inj h
    split <;> simp_all

/-- A document that is shown changes no code. -/
theorem deliver_shown {text : String} (h : ∀ file, r.outputFile = some file → file = "")
    (before : Report) :
    (deliver r text before).code = before.code ∧
      (deliver r text before).escaped = before.escaped := by
  unfold deliver
  split
  · exact ⟨rfl, rfl⟩
  · exact ⟨rfl, rfl⟩
  · next file hne hfile => exact absurd (h file hfile) hne

/-! ## Sections by name -/

/-- The sections that are asked for do not matter for JSON. -/
theorem run_of_json (h : r.format = .json) (sections : Option (List String)) :
    run registry d { r with sections } s = run registry d r s := by
  have hdocument := document_of_json h sections
  unfold run
  simp only [hdocument]
  rfl

/-- A registry whose only extractor makes a module of every file. -/
def moduleRegistry : Registry :=
  ⟨[Examination.fixedExtractor "modules" [".py"] fun _ => .one (.module (sampleModule .null))]⟩

/-- A disk with one file to examine. -/
def oneFile : Disk := Disk.ofTexts [] [(["a.py"], "")]

/-- A request for some sections in a file. -/
def sectionRequest (names : List String) : Request :=
  { Request.default with outputFile := some "out.md", sections := some names }

/-- The sample is found and described. -/
theorem examined_oneFile (names : List String) :
    Examined moduleRegistry oneFile (sectionRequest names) .empty [sampleModule .null] := by
  have hfind : Search.find oneFile Request.default.options "." = .ok [Path.ofString "/a.py"] := by
    decide +kernel
  have hexamine : Examination.examineDirectory moduleRegistry oneFile
      (sectionRequest names).options (sectionRequest names).directory .empty =
        .ok (Examination.examineFiles moduleRegistry oneFile [Path.ofString "/a.py"] .empty) := by
    rw [Examination.examineDirectory]
    change (Search.find oneFile Request.default.options "." >>= _) = _
    rw [hfind]
    rfl
  exact ⟨_, hexamine, rfl, rfl⟩

/-- A disk with one file, whose docstring names half of a character. -/
def halfDisk : Disk := Disk.ofTexts [] [(["m.py"], "'\\ud800'")]

/-- Why the command fails: the search does, there is no document, or its file cannot be written. -/
inductive Fails (registry : Registry) (d : Disk) (r : Request) (s : Live.Store) : Prop
  | search {e : Search.Error} (h : Search.find d r.options r.directory = .error e)
  | document {ms : List ModuleRecord} (hexamined : Examined registry d r s ms)
      (h : r.NoDocument ms)
  | file {ms : List ModuleRecord} {file text : String} (hexamined : Examined registry d r s ms)
      (hdocument : r.document ms = .ok text) (hfile : r.outputFile = some file) (hne : file ≠ "")
      (h : (d.write (Path.ofString file) text).1 ≠ none)

/-- A failure is reported exactly if there is one. -/
theorem reports_failure_iff :
    (run registry d r s).escaped = none ∧ (run registry d r s).code ≠ 0 ↔
      Fails registry d r s := by
  constructor
  · rintro ⟨hescaped, hcode⟩
    rcases run_cases registry d r s with ⟨e, he⟩ | ⟨e, he⟩ | ⟨ms, hms⟩
    · exact .search he
    · rw [hescaped] at he
      cases he
    · cases hdocument : r.document ms with
      | error lines => exact .document hms (document_eq_error_iff.mp ⟨lines, hdocument⟩)
      | ok text =>
        obtain ⟨console, printed, hrun⟩ := run_of_document hms hdocument
        rw [hrun] at hcode
        by_cases hshown : ∀ file, r.outputFile = some file → file = ""
        · exact absurd (deliver_shown hshown _).1 hcode
        · obtain ⟨file, hfile, hne⟩ := not_forall₂.mp hshown
          refine .file hms hdocument hfile hne fun hwrite => hcode ?_
          rw [(deliver_of_file hfile hne _).2.2]
          exact if_pos hwrite
  · intro h
    cases h with
    | search h =>
      obtain ⟨hcode, hescaped⟩ := run_of_search_error h
      exact ⟨hescaped, hcode ▸ one_ne_zero⟩
    | document hexamined h =>
      obtain ⟨lines, hlines⟩ := document_eq_error_iff.mpr h
      obtain ⟨hcode, -, hescaped⟩ := run_of_document_error hexamined hlines
      exact ⟨hescaped, hcode ▸ one_ne_zero⟩
    | file hexamined hdocument hfile hne h =>
      obtain ⟨console, printed, hrun⟩ := run_of_document hexamined hdocument
      obtain ⟨-, hescaped, hcode⟩ :=
        deliver_of_file hfile hne ⟨0, console, printed, d, none⟩
      rw [hrun, hescaped, hcode, if_neg h]
      exact ⟨rfl, one_ne_zero⟩

end Codebook.Command.Examine

namespace Codebook.CommandLine

open Command.Examine (Request Fails reports_failure_iff)

variable {registry : Registry} {server : Command.Serve.Server} {d : Disk} {args : List String}
  {s : Live.Store} {r : Request}

/-- What the command reports is dropped. -/
theorem run_examine_code_of_none (h : parse args = .run (.examine r))
    (hescaped : (Command.Examine.run registry d r s).escaped = none) :
    (run registry server d args s).code = 0 := by
  unfold run
  rw [h]
  simp only [hescaped]

/-- The program ends with the code of an exception that escapes. -/
theorem run_examine_code_of_some (h : parse args = .run (.examine r)) {e : Live.Raised}
    (hescaped : (Command.Examine.run registry d r s).escaped = some e) :
    (run registry server d args s).code = (exitOf e).1 := by
  unfold run
  rw [h]
  simp only [hescaped]

/-- The command alone has the default options. -/
theorem parse_examine : parse ["examine"] = .run (.examine .default) := by
  have hpiece : piece helpOptions "examine" = .other := by
    have h : "examine".startsWith "-" = false := by simp
    simp [piece, h]
  have hread : CommandLine.read helpOptions false ["examine"] = some ⟨[], ["examine"]⟩ := by
    simp [CommandLine.read, hpiece]
  rw [parse, hread]
  rfl

/-- A disk with an ignore file that cannot be decoded. -/
def garbledDisk : Disk := ⟨.dir [(".gitignore", .file [0xff])], []⟩

/-- An ignore file that cannot be decoded makes the command fail. -/
theorem fails_garbledDisk (registry : Registry) (s : Live.Store) :
    Fails registry garbledDisk .default s := by
  have hnone : (Search.find garbledDisk Request.default.options ".").toOption = none := by decide
  cases hfind : Search.find garbledDisk Request.default.options "." with
  | error e => exact .search hfind
  | ok files =>
    rw [hfind] at hnone
    cases hnone

end Codebook.CommandLine
