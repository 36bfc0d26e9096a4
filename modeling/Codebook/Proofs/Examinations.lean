import Mathlib
import Codebook.Examination
import Codebook.Proofs.Outlines

/-!
# One record for each file

Files are examined one after the other in one session, and what running one of them leaves behind is
there for the next. A file whose code fails is described by its text. Only an exception that is no
ordinary one, such as a request to exit, gets past all this, and it ends the examination. What files
do when they are run is not looked into: the statements hold for every way to run them (`Runner`).

* `Inspection.stopping?` is that exception, for one file in one session, and `Undisturbed` says that
  there is none along a list of files.
* `inspectWith_of_read`: a file that can be read has a record that names it, unless there is such an
  exception (one step).
* `foldl_examineFile_of_undisturbed`, `foldl_examineFile_of_stopping`: what this comes to for a list of
  files (the whole run).
* `documented_iff_undisturbed`: the examination comes to its end with one module record for each file,
  in order, exactly if the files are undisturbed; otherwise it ends with the exception of the first
  file that has one and the records of the files before it.
* `not_forall_documented`: a file that asks to exit keeps the files after it from being described.
-/

namespace Codebook

/-! ## Runs that end with a result -/

namespace Live

/-- A run goes on from its result, and ends early if it has none. -/
theorem Run.run_bind {α β : Type} (x : Run α) (f : α → Run β) (s : Store) :
    (x >>= f).run.run s =
      match x.run.run s with
      | (.ok a, u) => (f a).run.run u
      | (.error e, u) => (.error e, u) := by
  rw [ExceptT.run_bind, StateT.run_bind]
  rcases x.run.run s with ⟨r, u⟩
  cases r with
  | error e => rfl
  | ok a => rfl

/-- A run with a result has one at each step. -/
theorem Run.of_bind_ok {α β : Type} {x : Run α} {f : α → Run β} {s t : Store} {b : β}
    (h : (x >>= f).run.run s = (.ok b, t)) :
    ∃ a u, x.run.run s = (.ok a, u) ∧ (f a).run.run u = (.ok b, t) := by
  rw [Run.run_bind] at h
  split at h
  · rename_i a u hx
    exact ⟨a, u, hx, h⟩
  · cases h

/-- Raising an exception ends a run with a value of the class asked for. -/
theorem Run.run_raiseWith {α : Type} (name : String) (args : List Value) (s : Store) :
    ∃ e t, (raiseWith name args : Run α).run.run s = (.error (.raised e), t) ∧
      t.classOf e = .known name := by
  refine ⟨_, _, rfl, ?_⟩
  simp [Store.classOf, Store.object]

/-- The record of a module names the file that it was asked for and the module, and has the docstring
that was suggested. -/
theorem describeModule_given {path : Path} {m : Module} {suggested : Option String} {s t : Store}
    {r : ModuleRecord} (h : (describeModule path m suggested).run.run s = (.ok r, t)) :
    (r.origin = Outline.originOf path.toString ∧ r.name = m.name) ∧
      ∀ title, suggested = some title → r.docstring = some title := by
  unfold describeModule at h
  -- all steps but the last two only give the other parts of the record
  obtain ⟨_, _, -, h⟩ := Run.of_bind_ok h
  obtain ⟨_, _, -, h⟩ := Run.of_bind_ok h
  obtain ⟨_, _, -, h⟩ := Run.of_bind_ok h
  obtain ⟨_, _, -, h⟩ := Run.of_bind_ok h
  obtain ⟨_, _, -, h⟩ := Run.of_bind_ok h
  obtain ⟨doc, _, hdoc, h⟩ := Run.of_bind_ok h
  obtain rfl := Except.ok.inj (congrArg Prod.fst h)
  refine ⟨⟨rfl, rfl⟩, ?_⟩
  rintro title rfl
  cases hdoc
  rfl

/-- A file that has come to its end is a module with the name of the file. -/
theorem fill_name {d : Disk} {path : Path} {frame : Nat} {s t : Store} {m : Module}
    (h : (fill d path frame).run.run s = (.ok m, t)) : m.name = path.stem := by
  have hdone {u v : Store} (h : (pure ⟨path.stem, frame⟩ : Run Module).run.run u = (.ok m, v)) :
      m.name = path.stem :=
    congrArg Module.name (Except.ok.inj (congrArg Prod.fst h)).symm
  unfold fill at h
  split at h
  · rename_i e _
    cases e <;> cases h
  · obtain ⟨_, _, -, h⟩ := Run.of_bind_ok h
    obtain ⟨_, _, -, h⟩ := Run.of_bind_ok h
    obtain ⟨_, _, -, h⟩ := Run.of_bind_ok h
    -- a docstring may be added, and then the module is given
    dsimp only at h
    split at h
    · obtain ⟨_, _, -, h⟩ := Run.of_bind_ok h
      split at h
      · obtain ⟨_, _, -, h⟩ := Run.of_bind_ok h
        exact hdone h
      · exact hdone h
    · exact hdone h

/-- The module of a file has the name of the file. -/
theorem load_name {d : Disk} {path : Path} {s t : Store} {m : Module}
    (h : (load d path).run.run s = (.ok m, t)) : m.name = path.stem := by
  unfold load at h
  obtain ⟨_, _, -, h⟩ := Run.of_bind_ok h
  split at h
  · obtain ⟨_, _, -, h⟩ := Run.of_bind_ok h
    obtain ⟨_, _, -, h⟩ := Run.of_bind_ok h
    obtain ⟨_, _, -, h⟩ := Run.of_bind_ok h
    exact fill_name h
  · obtain ⟨_, _, h, -⟩ := Run.of_bind_ok h
    cases h

end Live

/-! ## One file -/

/-- An outline tells its file. -/
theorem Outline.ofText_file (path : Path) (code : String) :
    (ofText path code).origin.file = path.toString := by
  unfold ofText
  split
  · rfl
  · split
    · rfl
    · rfl

namespace Inspection

/-- The record of a file that was run names the file and its module. -/
theorem live_given {d : Disk} {path : Path} {code : String} {s t : Live.Store} {r : ModuleRecord}
    (h : (live d path code).run.run s = (.ok r, t)) :
    r.origin = Outline.originOf path.toString ∧ r.name = path.stem := by
  obtain ⟨m, _, hload, hdescribe⟩ := Live.Run.of_bind_ok h
  obtain ⟨⟨horigin, hname⟩, -⟩ := Live.describeModule_given hdescribe
  exact ⟨horigin, hname.trans (Live.load_name hload)⟩

/-- The refusal to run a file is an ordinary exception. -/
theorem run_refused (path : Path) (s : Live.Store) :
    ∃ e t, (refused path).run.run s = (.error (.raised e), t) ∧ isOrdinary t e = true := by
  obtain ⟨e, t, hrun, hclass⟩ := @Live.Run.run_raiseWith ModuleRecord "ImportError"
    [.text ("Could not load module from " ++ path.toString)] s
  have hderived : (Live.knownOrder "ImportError").contains (.known "Exception") = true := by
    decide +kernel
  refine ⟨e, t, hrun, ?_⟩
  rw [isOrdinary, Live.Store.isInstance, hclass, Live.Store.isDerived, Live.Store.order, hderived,
    Bool.or_true]

/-- The exception that ends the program when a file is run and described in a session. -/
def stopping? (run : Runner) (d : Disk) (path : Path) (s : Live.Store) : Option Live.Raised :=
  match d.read path with
  | .error _ => none
  | .ok code =>
    match (run d path code s).1 with
    | .escaped e => some e
    | _ => none

/-- The session after a file was inspected. -/
def sessionAfter (run : Runner) (d : Disk) (s : Live.Store) (path : Path) : Live.Store :=
  (inspectWith run d path s).2

/-- A file that can be read is outlined. -/
theorem outlined_of_read {d : Disk} {path : Path} {code : String} (hr : d.read path = .ok code) :
    outlined d path = .ok (Outline.ofText path code) := by
  rw [outlined, Outline.ofFile_of_read hr]
  rfl

section Inspect

variable {d : Disk} {path : Path} {code : String} (hr : d.read path = .ok code)
include hr

/-- A file that was run and described has the record that was made of it. -/
theorem inspect_of_live {s t : Live.Store} {r : ModuleRecord}
    (hlive : (live d path code).run.run s = (.ok r, t)) : inspect true d path s = (.ok r, t) := by
  obtain ⟨horigin, hname⟩ := live_given hlive
  simp only [inspect, inspectWith, running, hr, if_true, hlive, ← horigin, ← hname]

/-- A file whose run raises an ordinary exception, or is followed no further, is described by its
text. -/
theorem inspect_of_signal {s t : Live.Store} {x : Live.Signal}
    (hlive : (live d path code).run.run s = (.error x, t))
    (hx : ∀ v, x = .raised v → isOrdinary t v = true) :
    inspect true d path s = (.ok (Outline.ofText path code), t) := by
  rw [← outlined_of_read hr]
  cases x with
  | raised v => simp only [inspect, inspectWith, running, hr, if_true, hlive, hx v rfl]
  | beyond => simp only [inspect, inspectWith, running, hr, if_true, hlive]

/-- Where files must not be run, the record of a file is taken from its text. -/
theorem inspect_refused (s : Live.Store) : (inspect false d path s).1 = outlined d path := by
  obtain ⟨e, t, hrun, ho⟩ := run_refused path s
  simp only [inspect, inspectWith, running, hr, Bool.false_eq_true, if_false, hrun, ho, if_true]

/-- In whatever way files are run, a file that can be read has a record that names it, or there is an
exception that ends the program. -/
theorem inspectWith_of_read (run : Runner) (s : Live.Store) :
    (stopping? run d path s = none ∧
      ∃ m, (inspectWith run d path s).1 = .ok m ∧ m.origin.file = path.toString) ∨
    ∃ e, stopping? run d path s = some e ∧ (inspectWith run d path s).1 = .error (.escaped e) := by
  rcases hrun : run d path code s with ⟨ending, t⟩
  cases ending with
  | described docstring functions classes =>
    refine .inl ⟨?_, ⟨Outline.originOf path.toString, path.stem, docstring, functions, classes⟩, ?_,
      rfl⟩
    · simp only [stopping?, hr, hrun]
    · simp only [inspectWith, hr, hrun]
  | failed =>
    refine .inl ⟨?_, _, ?_, Outline.ofText_file path code⟩
    · simp only [stopping?, hr, hrun]
    · simp only [inspectWith, hr, hrun, outlined_of_read hr]
  | escaped e =>
    refine .inr ⟨e, ?_, ?_⟩
    · simp only [stopping?, hr, hrun]
    · simp only [inspectWith, hr, hrun]

end Inspect

end Inspection

/-! ## A list of files -/

namespace Examination

open Inspection

/-- The extractors that the program starts with, where files are run in the given way. -/
def extractorsWith (run : Runner) : Registry :=
  Registry.empty.register (Extractor.pythonWith run)

/-- Without a setting the program starts with the extractor that runs files as far as it can. -/
theorem initial_eq_extractorsWith : Registry.initial none true = extractorsWith (running true) :=
  rfl

/-- A source file is one for the extractor. -/
theorem forFile_extractorsWith (run : Runner) {path : Path} (hpy : path.suffix = ".py") :
    (extractorsWith run).forFile path = [Extractor.pythonWith run] := by
  have hacc : (Extractor.pythonWith run).accepts path = true := by
    simp [Extractor.pythonWith, Extractor.hasExtension, hpy]
  have hall : (extractorsWith run).extractors = [Extractor.pythonWith run] := rfl
  rw [Registry.forFile, hall]
  simp [hacc]

/-- Once an exception has ended an examination, no file changes it. -/
theorem foldl_examineFile_of_escaped (r : Registry) (d : Disk) {st : State}
    (h : st.escaped.isSome = true) : ∀ files : List Path, files.foldl (examineFile r d) st = st
  | [] => rfl
  | path :: files => by
    have hstep : examineFile r d st path = st := by rw [examineFile, if_pos h]
    rw [List.foldl_cons, hstep]
    exact foldl_examineFile_of_escaped r d h files

section Step

variable {run : Runner} {d : Disk} {path : Path} {code : String} {st : State}

/-- Examining a file puts its record after those that are there. -/
theorem examineFile_of_record (hst : st.escaped = none) (hpy : path.suffix = ".py")
    {m : ModuleRecord} (hm : (inspectWith run d path st.session).1 = .ok m) :
    let next := examineFile (extractorsWith run) d st path
    next.escaped = none ∧ next.session = sessionAfter run d st.session path ∧
      next.extraction.items = st.extraction.items ++ [.module m] := by
  have hex : (Extractor.pythonWith run).extract d path st.session =
      (.one (.module m), sessionAfter run d st.session path) := by
    simp only [Extractor.pythonWith, hm, Extractor.outcomeOf, sessionAfter]
  simp only [examineFile, hst, Option.isSome_none, Bool.false_eq_true, if_false,
    forFile_extractorsWith run hpy, List.foldl_cons, List.foldl_nil, apply, hex]
  exact ⟨trivial, trivial, trivial⟩

/-- There is a record that names the file, unless it ends the program. -/
theorem examineFile_of_none (hst : st.escaped = none) (hpy : path.suffix = ".py")
    (hr : d.read path = .ok code) (hstop : stopping? run d path st.session = none) :
    let next := examineFile (extractorsWith run) d st path
    next.escaped = none ∧ next.session = sessionAfter run d st.session path ∧
      ∃ m : ModuleRecord, m.origin.file = path.toString ∧
        next.extraction.items = st.extraction.items ++ [.module m] := by
  rcases inspectWith_of_read hr run st.session with ⟨-, m, hm, hfile⟩ | ⟨e, he, -⟩
  · obtain ⟨hesc, hsession, hitems⟩ := examineFile_of_record hst hpy hm
    exact ⟨hesc, hsession, m, hfile, hitems⟩
  · rw [hstop] at he
    cases he

/-- Examining a file that ends the program adds no record. -/
theorem examineFile_of_some (hst : st.escaped = none) (hpy : path.suffix = ".py")
    (hr : d.read path = .ok code) {e : Live.Raised} (hstop : stopping? run d path st.session = some e) :
    let next := examineFile (extractorsWith run) d st path
    next.escaped = some e ∧ next.extraction.items = st.extraction.items := by
  rcases inspectWith_of_read hr run st.session with ⟨hnone, -⟩ | ⟨e', he, hm⟩
  · rw [hstop] at hnone
    cases hnone
  · obtain rfl : e = e' := Option.some.inj (hstop.symm.trans he)
    have hex : (Extractor.pythonWith run).extract d path st.session =
        (.escaped e, sessionAfter run d st.session path) := by
      simp only [Extractor.pythonWith, hm, Extractor.outcomeOf, sessionAfter]
    simp only [examineFile, hst, Option.isSome_none, Bool.false_eq_true, if_false,
      forFile_extractorsWith run hpy, List.foldl_cons, List.foldl_nil, apply, hex]
    exact ⟨trivial, trivial⟩

end Step

/-- No file ends the program, each being run in the session that those before it leave. -/
def Undisturbed (run : Runner) (d : Disk) : List Path → Live.Store → Prop
  | [], _ => True
  | path :: files, s =>
    stopping? run d path s = none ∧ Undisturbed run d files (sessionAfter run d s path)

instance decidableUndisturbed (run : Runner) (d : Disk) :
    ∀ (files : List Path) (s : Live.Store), Decidable (Undisturbed run d files s)
  | [], _ => .isTrue trivial
  | path :: files, s =>
    have := decidableUndisturbed run d files (sessionAfter run d s path)
    inferInstanceAs (Decidable (_ ∧ _))

/-- One module record for each file, in order. -/
def Documented (files : List Path) (items : List Item) : Prop :=
  List.Forall₂ (fun path item =>
    ∃ m : ModuleRecord, item = .module m ∧ m.origin.file = path.toString) files items

/-- The file is one for the extractor of source files, and has a text. -/
def IsSource (d : Disk) (path : Path) : Prop :=
  path.suffix = ".py" ∧ ∃ code, d.read path = .ok code

instance (d : Disk) (path : Path) : Decidable (IsSource d path) :=
  decidable_of_iff (path.suffix = ".py" ∧ (d.read path).toOption.isSome = true) <| by
    simp only [IsSource, Option.isSome_iff_exists, Result.toOption_eq_some]

/-- Undisturbed files are all described. -/
theorem foldl_examineFile_of_undisturbed {run : Runner} {d : Disk} :
    ∀ {files : List Path} {st : State}, (∀ path ∈ files, IsSource d path) → st.escaped = none →
      Undisturbed run d files st.session →
      let final := files.foldl (examineFile (extractorsWith run) d) st
      final.escaped = none ∧ final.session = files.foldl (sessionAfter run d) st.session ∧
        ∃ items, Documented files items ∧
          final.extraction.items = st.extraction.items ++ items
  | [], st, _, hst, _ => ⟨hst, rfl, [], .nil, (List.append_nil _).symm⟩
  | path :: files, st, hsrc, hst, hun => by
    obtain ⟨hpy, code, hr⟩ := hsrc path List.mem_cons_self
    obtain ⟨hesc, hses, m, hfile, hitems⟩ := examineFile_of_none hst hpy hr hun.1
    obtain ⟨hesc', hses', items, hdoc, hitems'⟩ := foldl_examineFile_of_undisturbed
      (fun p hp => hsrc p (List.mem_cons_of_mem _ hp)) hesc (hses ▸ hun.2)
    refine ⟨hesc', ?_, .module m :: items, .cons ⟨m, rfl, hfile⟩ hdoc, ?_⟩
    · rw [List.foldl_cons, hses', hses, List.foldl_cons]
    · rw [List.foldl_cons, hitems', hitems, List.append_assoc, List.singleton_append]

/-- The first file that ends the program leaves the records of those before it. -/
theorem foldl_examineFile_of_stopping {run : Runner} {d : Disk} {done rest : List Path}
    {path : Path} {st : State} {e : Live.Raised}
    (hsrc : ∀ p ∈ done ++ path :: rest, IsSource d p) (hst : st.escaped = none)
    (hun : Undisturbed run d done st.session)
    (hstop : stopping? run d path (done.foldl (sessionAfter run d) st.session) = some e) :
    let final := (done ++ path :: rest).foldl (examineFile (extractorsWith run) d) st
    final.escaped = some e ∧
      ∃ items, Documented done items ∧ final.extraction.items = st.extraction.items ++ items := by
  obtain ⟨hesc, hses, items, hdoc, hitems⟩ := foldl_examineFile_of_undisturbed
    (fun p hp => hsrc p (List.mem_append_left _ hp)) hst hun
  obtain ⟨hpy, code, hr⟩ := hsrc path (List.mem_append_right _ List.mem_cons_self)
  obtain ⟨hesc', hitems'⟩ := examineFile_of_some hesc hpy hr (hses ▸ hstop)
  simp only [List.foldl_append, List.foldl_cons]
  rw [foldl_examineFile_of_escaped _ d (by rw [hesc']; rfl) rest]
  exact ⟨hesc', items, hdoc, hitems'.trans hitems⟩

/-- Files that are not undisturbed have a first one that ends the program. -/
theorem exists_stopping_of_not_undisturbed {run : Runner} {d : Disk} :
    ∀ {files : List Path} {s : Live.Store}, ¬ Undisturbed run d files s →
      ∃ done path rest e, files = done ++ path :: rest ∧ Undisturbed run d done s ∧
        stopping? run d path (done.foldl (sessionAfter run d) s) = some e
  | [], _, h => absurd trivial h
  | path :: files, s, h => by
    cases hstop : stopping? run d path s with
    | some e => exact ⟨[], path, files, e, rfl, trivial, hstop⟩
    | none =>
      obtain ⟨done, path', rest, e, rfl, hun, he⟩ :=
        exists_stopping_of_not_undisturbed fun hun => h ⟨hstop, hun⟩
      exact ⟨path :: done, path', rest, e, rfl, ⟨hstop, hun⟩, he⟩

/-- **When every file is described.** In whatever way source files are run, an examination comes to its
end with one module record for each file, in their order, exactly if no file ends the program; otherwise
it ends with the exception of the first file that does, and with the records of the files before it. -/
theorem documented_iff_undisturbed (run : Runner) {d : Disk} {files : List Path}
    (hsrc : ∀ path ∈ files, IsSource d path) (s : Live.Store) :
    let st := examineFiles (extractorsWith run) d files s
    ((st.escaped = none ∧ Documented files st.extraction.items) ↔ Undisturbed run d files s) ∧
      ∀ done path rest e, files = done ++ path :: rest → Undisturbed run d done s →
        stopping? run d path (done.foldl (sessionAfter run d) s) = some e →
        st.escaped = some e ∧ Documented done st.extraction.items := by
  have hstop : ∀ done path rest e, files = done ++ path :: rest → Undisturbed run d done s →
      stopping? run d path (done.foldl (sessionAfter run d) s) = some e →
      (examineFiles (extractorsWith run) d files s).escaped = some e ∧
        Documented done
          (examineFiles (extractorsWith run) d files s).extraction.items := by
    rintro done path rest e rfl hun he
    obtain ⟨hesc, items, hdoc, hitems⟩ := @foldl_examineFile_of_stopping run d done rest path
      (.start (done ++ path :: rest).length s) e hsrc rfl hun he
    exact ⟨hesc, hitems.trans (List.nil_append items) ▸ hdoc⟩
  refine ⟨⟨fun ⟨hesc, _⟩ => ?_, fun hun => ?_⟩, hstop⟩
  · by_contra hun
    obtain ⟨done, path, rest, e, hfiles, hdone, he⟩ := exists_stopping_of_not_undisturbed hun
    rw [(hstop done path rest e hfiles hdone he).1] at hesc
    cases hesc
  · obtain ⟨hesc, -, items, hdoc, hitems⟩ :=
      @foldl_examineFile_of_undisturbed run d files (.start files.length s) hsrc rfl hun
    exact ⟨hesc, hitems.trans (List.nil_append items) ▸ hdoc⟩

/-- Files that fail in different ways: the first one is no source text, the second one raises an
exception, and the third one is as it should be. -/
def failingTexts : List (List String × String) :=
  [(["a.py"], "def (\n"), (["b.py"], "1/0\n"), (["c.py"], "x = 1\n")]

/-- Files of which the first one asks to exit. -/
def exitingTexts : List (List String × String) :=
  [(["a.py"], "import sys\nsys.exit(3)\n"), (["b.py"], "")]

/-- The paths of some texts in the current directory. -/
def pathsOf (texts : List (List String × String)) : List Path :=
  texts.map fun f => ⟨.here, f.1⟩

/-- Files that fail in these ways are all described. -/
theorem documented_failingTexts :
    (∀ path ∈ pathsOf failingTexts, IsSource (.ofTexts [] failingTexts) path) ∧
      Undisturbed (running true) (.ofTexts [] failingTexts) (pathsOf failingTexts) .empty ∧
      Documented (pathsOf failingTexts) (examineFiles (Registry.initial none true)
        (.ofTexts [] failingTexts) (pathsOf failingTexts) .empty).extraction.items := by
  have hsrc : ∀ path ∈ pathsOf failingTexts, IsSource (.ofTexts [] failingTexts) path := by
    decide +kernel
  have hun : Undisturbed (running true) (.ofTexts [] failingTexts) (pathsOf failingTexts) .empty := by
    decide +kernel
  exact ⟨hsrc, hun, ((documented_iff_undisturbed (running true) hsrc .empty).1.mpr hun).2⟩

/-- **One file can keep all those after it from being described.** -/
theorem not_forall_documented :
    ¬ ∀ (d : Disk) (files : List Path) (s : Live.Store), (∀ path ∈ files, IsSource d path) →
      (examineFiles (Registry.initial none true) d files s).escaped = none ∧
        Documented files (examineFiles (Registry.initial none true) d files s).extraction.items := by
  intro h
  have hsrc : ∀ path ∈ pathsOf exitingTexts, IsSource (.ofTexts [] exitingTexts) path := by
    decide +kernel
  have hesc := (h _ _ .empty hsrc).1
  exact absurd hesc (by decide +kernel)

end Examination

end Codebook
