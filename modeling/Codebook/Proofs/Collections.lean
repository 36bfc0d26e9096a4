import Mathlib
import Codebook.Proofs.Examinations
import Codebook.Proofs.FirstSeen

/-!
# What an examination collects

Every file goes through all extractors that take it, and what they give is collected. Where this
depends on the file alone (`Settled`), an examination is no more than the sum of its files.

* `apply_of_returns`, `foldl_apply_of_returns`: one extractor on a file, and several.
* `examineFile_of_settled`, `foldl_examineFile_of_settled`: one file, and a list of files. A file adds
  what its extractors give, in the order of the registry, and their names if they are new.
* `examineFiles_append`: the items of two lists of files are those of the first, then those of the
  second. Their number is kept, and the extractors are listed in the order in which they first took a
  file, those that failed on it included.
-/

namespace Codebook

/-- The items that an outcome adds to an examination. -/
def Outcome.items : Outcome → List Item
  | .one item => [item]
  | .many items => items
  | .failed _ => []
  | .escaped _ => []

namespace Examination

/-- What the extractors make of a file that they take is `out`, in every session, and does not end the
program. -/
structure Settled (r : Registry) (d : Disk) (out : Extractor → Path → Outcome) : Prop where
  same : ∀ e ∈ r.extractors, ∀ path, e.accepts path = true →
    ∀ s, (e.extract d path s).1 = out e path
  returns : ∀ e ∈ r.extractors, ∀ path, e.accepts path = true → ∀ x, out e path ≠ .escaped x

/-! ## One file -/

section File

variable {d : Disk} {path : Path}

/-- An extractor that comes back adds its items, if it has any, and nothing else. -/
theorem apply_of_returns {st : State} (hst : st.escaped = none) (e : Extractor)
    (hret : ∀ x, (e.extract d path st.session).1 ≠ .escaped x) :
    (apply d path st e).escaped = none ∧
      (apply d path st e).extraction =
        { st.extraction with
          items := st.extraction.items ++ (e.extract d path st.session).1.items } := by
  have hgo : ¬ st.escaped.isSome = true := by simp [hst]
  unfold apply
  rw [if_neg hgo]
  rcases hout : e.extract d path st.session with ⟨outcome, s⟩
  rw [hout] at hret
  cases outcome with
  | one item => exact ⟨hst, rfl⟩
  | many items => exact ⟨hst, rfl⟩
  | failed message => exact ⟨hst, by simp [Outcome.items]⟩
  | escaped x => exact absurd rfl (hret x)

/-- Extractors that come back add their items one after the other. -/
theorem foldl_apply_of_returns {out : Extractor → Path → Outcome} {es : List Extractor} {st : State}
    (hst : st.escaped = none) (hsame : ∀ e ∈ es, ∀ s, (e.extract d path s).1 = out e path)
    (hret : ∀ e ∈ es, ∀ x, out e path ≠ .escaped x) :
    (es.foldl (apply d path) st).escaped = none ∧
      (es.foldl (apply d path) st).extraction =
        { st.extraction with
          items := st.extraction.items ++ es.flatMap fun e => (out e path).items } := by
  induction es generalizing st with
  | nil => exact ⟨hst, by simp⟩
  | cons e es ih =>
    have hout := hsame e List.mem_cons_self st.session
    obtain ⟨hesc, hext⟩ := apply_of_returns hst e (hout ▸ hret e List.mem_cons_self)
    obtain ⟨hesc', hext'⟩ := ih hesc (fun x hx => hsame x (List.mem_cons_of_mem e hx))
      (fun x hx => hret x (List.mem_cons_of_mem e hx))
    refine ⟨hesc', ?_⟩
    rw [List.foldl_cons, hext', hext, hout]
    simp

end File

/-! ## A list of files -/

/-- The items of a file: those of the extractors that take it, in the order of the registry. -/
def itemsOf (r : Registry) (out : Extractor → Path → Outcome) (path : Path) : List Item :=
  (r.forFile path).flatMap fun e => (out e path).items

/-- The names of the extractors as they come up, file by file. -/
def encounters (r : Registry) (files : List Path) : List String :=
  (files.flatMap r.forFile).map (·.name)

/-- A new name is noted last. -/
theorem note_eq (used : List String) (e : Extractor) :
    note used e = if e.name ∈ used then used else used ++ [e.name] := by
  simp [note]

/-- Noting the names as they come up lists them as they are first seen. -/
theorem firstSeen_foldl_note {log used : List String} (h : FirstSeen log used)
    (es : List Extractor) : FirstSeen (log ++ es.map (·.name)) (es.foldl note used) := by
  induction es generalizing log used with
  | nil => simpa using h
  | cons e es ih =>
    have hnext := ih (note_eq used e ▸ h.concat e.name)
    simpa using hnext

section Files

variable {r : Registry} {d : Disk} {out : Extractor → Path → Outcome}

/-- One file adds its items and the names of its extractors. -/
theorem examineFile_of_settled (h : Settled r d out) {st : State} (hst : st.escaped = none)
    (path : Path) :
    (examineFile r d st path).escaped = none ∧
      (examineFile r d st path).extraction =
        ⟨st.extraction.fileCount, (r.forFile path).foldl note st.extraction.extractors,
          st.extraction.items ++ itemsOf r out path⟩ := by
  have hgo : ¬ st.escaped.isSome = true := by simp [hst]
  unfold examineFile
  rw [if_neg hgo]
  refine foldl_apply_of_returns hst ?_ ?_
  · intro e he
    obtain ⟨hmem, hacc⟩ := List.mem_filter.mp he
    exact h.same e hmem path hacc
  · intro e he
    obtain ⟨hmem, hacc⟩ := List.mem_filter.mp he
    exact h.returns e hmem path hacc

/-- A list of files adds the items and the names of its files one after the other. -/
theorem foldl_examineFile_of_settled (h : Settled r d out) {st : State} (hst : st.escaped = none)
    (files : List Path) :
    (files.foldl (examineFile r d) st).escaped = none ∧
      (files.foldl (examineFile r d) st).extraction =
        ⟨st.extraction.fileCount, (files.flatMap r.forFile).foldl note st.extraction.extractors,
          st.extraction.items ++ files.flatMap (itemsOf r out)⟩ := by
  induction files generalizing st with
  | nil => exact ⟨hst, by simp⟩
  | cons path files ih =>
    obtain ⟨hesc, hext⟩ := examineFile_of_settled h hst path
    obtain ⟨hesc', hext'⟩ := ih hesc
    refine ⟨hesc', ?_⟩
    rw [List.foldl_cons, hext', hext]
    simp

/-- An examination comes to its end, with what its files come to. -/
theorem examineFiles_of_settled (h : Settled r d out) (files : List Path) (s : Live.Store) :
    (examineFiles r d files s).escaped = none ∧
      (examineFiles r d files s).extraction =
        ⟨files.length, (files.flatMap r.forFile).foldl note [], files.flatMap (itemsOf r out)⟩ :=
  @foldl_examineFile_of_settled r d out h (.start files.length s) rfl files

/-- The names that are met are those of extractors that accept a file. -/
theorem mem_encounters {files : List Path} {n : String} :
    n ∈ encounters r files ↔
      ∃ path ∈ files, ∃ e ∈ r.extractors, e.accepts path = true ∧ e.name = n := by
  unfold encounters
  rw [List.mem_map]
  constructor
  · rintro ⟨e, he, hname⟩
    obtain ⟨path, hpath, he⟩ := List.mem_flatMap.mp he
    obtain ⟨hmem, hacc⟩ := List.mem_filter.mp he
    exact ⟨path, hpath, e, hmem, hacc, hname⟩
  · rintro ⟨path, hpath, e, hmem, hacc, hname⟩
    exact ⟨e, List.mem_flatMap.mpr ⟨path, hpath, List.mem_filter.mpr ⟨hmem, hacc⟩⟩, hname⟩

/-- **An examination is the sum of its files.** Where what the extractors make of a file depends on the
file alone, an examination comes to its end. Its items are those of its files in order, so that the
items of two lists together are those of the first and then those of the second; the number of files
is that of the list; and the extractors are listed without repetition, in the order in which they
first took a file, exactly those that took one. -/
theorem examineFiles_append (h : Settled r d out) (xs ys : List Path) :
    (∀ files s,
      let st := examineFiles r d files s
      st.escaped = none ∧ st.extraction.fileCount = files.length ∧
        st.extraction.items = files.flatMap (itemsOf r out) ∧
        st.extraction.extractors.Nodup ∧
        FirstSeen (encounters r files) st.extraction.extractors ∧
        ∀ n, n ∈ st.extraction.extractors ↔
          ∃ path ∈ files, ∃ e ∈ r.extractors, e.accepts path = true ∧ e.name = n) ∧
    ∀ s t u, (examineFiles r d (xs ++ ys) s).extraction.items =
      (examineFiles r d xs t).extraction.items ++ (examineFiles r d ys u).extraction.items := by
  constructor
  · intro files s st
    obtain ⟨hesc, hext⟩ := examineFiles_of_settled h files s
    have hseen : FirstSeen (encounters r files) st.extraction.extractors := by
      have hnotes := firstSeen_foldl_note FirstSeen.nil (files.flatMap r.forFile)
      rw [List.nil_append] at hnotes
      change FirstSeen _ (examineFiles r d files s).extraction.extractors
      rw [hext]
      exact hnotes
    refine ⟨hesc, congrArg Extraction.fileCount hext, congrArg Extraction.items hext, hseen.nodup,
      hseen, ?_⟩
    intro n
    rw [hseen.mem_iff, mem_encounters]
  · intro s t u
    rw [(examineFiles_of_settled h (xs ++ ys) s).2, (examineFiles_of_settled h xs t).2,
      (examineFiles_of_settled h ys u).2]
    exact List.flatMap_append

end Files

/-! ## Extractors that depend on the file alone -/

/-- The extractor of source files, where it must not run them, depends on the file alone. -/
theorem extract_python_false (d : Disk) (path : Path) (s : Live.Store) :
    ((Extractor.python false).extract d path s).1 =
      Extractor.outcomeOf (Inspection.outlined d path) := by
  have hinspect : (Inspection.inspect false d path s).1 = Inspection.outlined d path := by
    cases hr : d.read path with
    | ok code => exact Inspection.inspect_refused hr s
    | error e =>
      rw [Inspection.inspect, Inspection.inspectWith, hr, Inspection.outlined, Outline.ofFile, hr]
      rfl
  rw [← hinspect]
  rfl

/-- No exception escapes from an outline. -/
theorem outcomeOf_outlined_ne_escaped (d : Disk) (path : Path) (x : Live.Raised) :
    Extractor.outcomeOf (Inspection.outlined d path) ≠ .escaped x := by
  unfold Inspection.outlined
  cases Outline.ofFile d path with
  | ok m => exact fun h => Outcome.noConfusion h
  | error e => exact fun h => Outcome.noConfusion h

/-- An extractor that takes the files of some extensions and makes of each what it is told. -/
def fixedExtractor (name : String) (extensions : List String) (make : Path → Outcome) :
    Extractor where
  name := name
  version := "1"
  extensions := extensions
  capabilities := [.metrics]
  accepts := Extractor.hasExtension extensions
  extract := fun _ path s => (make path, s)

/-- A registry with an extractor that gives one item, one that gives two, and one that fails. -/
def mixedRegistry : Registry :=
  ((Registry.initial none false).register (fixedExtractor "parts" [".py", ".txt"] fun path =>
    .many (List.replicate 2 (.plain ⟨path.toString, "parts", .metrics⟩)))).register
    (fixedExtractor "broken" [".txt"] fun _ => .failed "boom")

/-- The outcomes of the sample do not depend on the session. -/
theorem settled_mixedRegistry (d : Disk) :
    Settled mixedRegistry d fun e path => (e.extract d path .empty).1 := by
  have hall : mixedRegistry.extractors = [.python false,
      fixedExtractor "parts" [".py", ".txt"] fun path =>
        .many (List.replicate 2 (.plain ⟨path.toString, "parts", .metrics⟩)),
      fixedExtractor "broken" [".txt"] fun _ => .failed "boom"] := rfl
  constructor
  · intro e he path _ s
    rw [hall, List.mem_cons, List.mem_cons, List.mem_singleton] at he
    rcases he with rfl | rfl | rfl
    · rw [extract_python_false, extract_python_false]
    · rfl
    · rfl
  · intro e he path _ x
    rw [hall, List.mem_cons, List.mem_cons, List.mem_singleton] at he
    rcases he with rfl | rfl | rfl
    · rw [extract_python_false]
      exact outcomeOf_outlined_ne_escaped d path x
    · exact fun h => Outcome.noConfusion h
    · exact fun h => Outcome.noConfusion h

/-- Two files, on the second of which one of its extractors fails. -/
theorem examineFiles_append_mixed :
    let d := Disk.ofTexts [] [(["m.py"], "x = 1\n"), (["n.txt"], "")]
    let xs : List Path := [⟨.here, ["m.py"]⟩]
    let ys : List Path := [⟨.here, ["n.txt"]⟩]
    let st := examineFiles mixedRegistry d (xs ++ ys) .empty
    Settled mixedRegistry d (fun e path => (e.extract d path .empty).1) ∧
      st.extraction.items = (examineFiles mixedRegistry d xs .empty).extraction.items ++
        (examineFiles mixedRegistry d ys .empty).extraction.items ∧
      st.extraction.items.length = 5 ∧
      st.extraction.extractors = ["python", "parts", "broken"] := by
  intro d xs ys st
  refine ⟨settled_mixedRegistry d, ?_, by decide +kernel, by decide +kernel⟩
  exact (examineFiles_append (settled_mixedRegistry d) xs ys).2 .empty .empty .empty

end Examination

end Codebook
