import Mathlib
import Codebook.Proofs.Sessions

/-!
# The order of files

What one examination says of a file depends on the files before it: each of them is known to the
session afterwards, so that an import of its name is found. The main statement `examineFiles_perm`
compares two orders of the same simple files. A file has the same record in both of them if and only if
its imports are found in both or in neither, or running it shows no more than its text
(`recordAfter_eq_iff`).

Files whose names are those of modules that come with the language are left out (`isStandard`): such a
file takes the place of the module for all that is done after it, for running and describing other
files as well, which goes by these modules.

* `inspect_of_knows`: the record of one file, from the names that the session knows.
* `examineFile_of_plain` and `foldl_examineFile_of_plain`: one file of an examination, and all of them.
* `not_forall_same_record`: two files whose order matters.
-/

namespace Codebook

/-! ## One file after the others -/

namespace Examination

open Inspection Live

variable {d : Disk} {s : Store}

/-- The name is that of a module that comes with the language, or of a part of one. -/
def isStandard (name : String) : Bool :=
  standardModules.contains ((Text.dottedParts name).headD "")

/-- All modules that come with the language have their places in a session. -/
def keepsStandard (s : Store) : Bool :=
  s.modules.all fun m => !isStandard m.1

/-- A source file with a name of its own. What is run of it is simple, and is followed to its end. -/
structure IsPlain (d : Disk) (path : Path) : Prop where
  source : IsSource d path
  simple : isSimpleFile d path = true
  followed : isFollowed d path = true
  named : isStandard path.stem = false

/-- No standard module is shadowed where none is replaced. -/
theorem unshadowed_of_keepsStandard (h : keepsStandard s = true) : Unshadowed s := by
  have hnone {name : String} (hname : isStandard name = true) : s.module? name = none := by
    refine List.lookup_eq_none_iff.mpr fun m hm => bne_iff_ne.mpr ?_
    rintro rfl
    have hm := List.all_eq_true.mp h m hm
    rw [hname] at hm
    cases hm
  exact ⟨hnone (by decide +kernel), hnone (by decide +kernel)⟩

/-- A file of another name replaces none. -/
theorem keepsStandard_opened {path : Path} (h : keepsStandard s = true)
    (hpath : isStandard path.stem = false) : keepsStandard (opened d path s) = true := by
  rw [keepsStandard, opened, List.all_cons, hpath]
  exact List.all_eq_true.mpr fun m hm => List.all_eq_true.mp h m (List.mem_of_mem_filter hm)

/-- All that a file imports is found in a session in which some files were examined: it is the file
itself, one of these, or known to the session. -/
def isReady (d : Disk) (s : Store) (before : List Path) (path : Path) : Bool :=
  (importedBy d path).all fun m => m == path.stem || before.any (·.stem == m) || s.canImport m

/-- The record of a file from its text alone. -/
def outlineOf (d : Disk) (path : Path) : ModuleRecord :=
  match d.read path with
  | .ok code => Outline.ofText path code
  | .error _ => Outline.emptyModule path

/-- The record of a file that is examined after others. -/
def recordAfter (d : Disk) (s : Store) (before : List Path) (path : Path) : ModuleRecord :=
  if isReady d s before path then (complete? d path).getD (outlineOf d path) else outlineOf d path

/-- The files that stand before a file. -/
def before (files : List Path) (path : Path) : List Path :=
  files.takeWhile (· != path)

/-- The session knows, besides what it knew at the start, the files that were examined, and none of
them has the place of a module that comes with the language. -/
structure Knows (s : Store) (done : List Path) (t : Store) : Prop where
  canImport_iff : ∀ m, t.canImport m = true ↔ (∃ p ∈ done, p.stem = m) ∨ s.canImport m = true
  keepsStandard : keepsStandard t = true

/-- A file is ready when it can import all it asks for. -/
theorem isReady_iff {done : List Path} {t : Store} (h : Knows s done t) (path : Path) :
    isReady d s done path = true ↔
      ∀ m ∈ importedBy d path, (opened d path t).canImport m = true := by
  rw [isReady, List.all_eq_true]
  refine forall₂_congr fun m _ => ?_
  rw [canImport_opened, h.canImport_iff m]
  simp [or_assoc]

/-- The record of a file that is examined after others. -/
theorem inspect_of_knows {done : List Path} {path : Path} {t : Store} (hfile : IsPlain d path)
    (h : Knows s done t) :
    (inspect true d path t).1 = .ok (recordAfter d s done path) ∧
      Knows s (done ++ [path]) (inspect true d path t).2 := by
  obtain ⟨⟨hpy, code, hr⟩, hsimple, -, hnamed⟩ := hfile
  have hend := Path.endsWith_of_suffix hpy
  have hs := unshadowed_of_keepsStandard h.keepsStandard
  have houtline : outlineOf d path = Outline.ofText path code := by rw [outlineOf, hr]
  have hmodules := modules_inspect hr hend hsimple hs
  refine ⟨?_, fun m => ?_, ?_⟩
  · rw [recordAfter, houtline]
    split
    · rename_i hready
      exact inspect_of_found hr hend hsimple hs ((isReady_iff h path).mp hready)
    · rename_i hready
      rw [isReady_iff h] at hready
      push Not at hready
      obtain ⟨m, hm, hmissing⟩ := hready
      exact inspect_of_missing hr hend hsimple hs hm (by simpa using hmissing)
  · have hcan : (inspect true d path t).2.canImport m = (opened d path t).canImport m := by
      rw [Store.canImport, Store.module?, hmodules]
      rfl
    rw [hcan, canImport_opened, h.canImport_iff m]
    simp only [List.mem_append, List.mem_singleton, or_and_right, exists_or, exists_eq_left]
    rw [eq_comm, or_left_comm, or_assoc]
  · rw [keepsStandard, hmodules]
    exact keepsStandard_opened h.keepsStandard hnamed

/-- One file adds its record and its name. -/
theorem examineFile_of_plain {done : List Path} {path : Path} {st : State} (hst : st.escaped = none)
    (hfile : IsPlain d path) (h : Knows s done st.session) :
    let next := examineFile (Registry.initial none true) d st path
    next.escaped = none ∧ Knows s (done ++ [path]) next.session ∧
      next.extraction.items = st.extraction.items ++ [.module (recordAfter d s done path)] := by
  obtain ⟨hrecord, hknows⟩ := inspect_of_knows hfile h
  obtain ⟨hesc, hsession, hitems⟩ := examineFile_of_record hst hfile.source.1 hrecord
  rw [initial_eq_extractorsWith]
  exact ⟨hesc, hsession ▸ hknows, hitems⟩

/-- Nothing comes before the first file. -/
theorem before_cons_self (path : Path) (files : List Path) : before (path :: files) path = [] := by
  simp [before]

/-- Every other file comes after the first one. -/
theorem before_cons_of_ne {path other : Path} (h : other ≠ path) (files : List Path) :
    before (other :: files) path = other :: before files path := by
  simp [before, h]

/-- All files, by induction over those that are left. -/
theorem foldl_examineFile_of_plain {files done : List Path} {st : State} (hst : st.escaped = none)
    (hnodup : files.Nodup) (hfiles : ∀ p ∈ files, IsPlain d p)
    (h : Knows s done st.session) :
    let final := files.foldl (examineFile (Registry.initial none true) d) st
    final.escaped = none ∧ final.extraction.items = st.extraction.items ++
      files.map fun p => .module (recordAfter d s (done ++ before files p) p) := by
  intro final
  induction files generalizing done st with
  | nil => exact ⟨hst, (List.append_nil _).symm⟩
  | cons path files ih =>
    obtain ⟨hpath, hnodup⟩ := List.nodup_cons.mp hnodup
    obtain ⟨hfile, hfiles⟩ := List.forall_mem_cons.mp hfiles
    obtain ⟨hescaped, hknows, hitems⟩ := examineFile_of_plain hst hfile h
    obtain ⟨hescaped', hitems'⟩ := ih hescaped hnodup hfiles hknows
    have hrest : (files.map fun p => Item.module (recordAfter d s (done ++ [path] ++ before files p) p)) =
        files.map fun p => .module (recordAfter d s (done ++ before (path :: files) p) p) := by
      refine List.map_congr_left fun p hp => ?_
      have hne : path ≠ p := by
        rintro rfl
        exact hpath hp
      rw [before_cons_of_ne hne, List.append_assoc, List.singleton_append]
    refine ⟨hescaped', hitems'.trans ?_⟩
    rw [hitems, hrest, List.map_cons, before_cons_self, List.append_nil, List.append_assoc,
      List.singleton_append]

/-! ## Two orders -/

/-- The record of a file in an examination of some files. -/
def recordIn (d : Disk) (s : Store) (files : List Path) (path : Path) : ModuleRecord :=
  recordAfter d s (before files path) path

/-- A file has the same record after different files if its imports are found after both of them or
after none, or if running it shows no more than its text. -/
theorem recordAfter_eq_iff (done done' : List Path) (path : Path) :
    recordAfter d s done path = recordAfter d s done' path ↔
      isReady d s done path = isReady d s done' path ∨ complete? d path = none ∨
        complete? d path = some (outlineOf d path) := by
  have hgetD : (complete? d path).getD (outlineOf d path) = outlineOf d path ↔
      complete? d path = none ∨ complete? d path = some (outlineOf d path) := by
    cases complete? d path <;> simp
  rw [← hgetD, recordAfter, recordAfter]
  cases isReady d s done path <;> cases isReady d s done' path <;> simp [eq_comm]

/-- Plain files are described as they come, each from what is known then. -/
theorem examineFiles_of_plain {files : List Path} (hnodup : files.Nodup)
    (hfiles : ∀ p ∈ files, IsPlain d p) (hs : keepsStandard s = true) :
    let st := examineFiles (Registry.initial none true) d files s
    st.escaped = none ∧ st.extraction.items = files.map fun p => .module (recordIn d s files p) := by
  have hknows : Knows s [] s := ⟨fun m => by simp, hs⟩
  have hst : (State.start files.length s).escaped = none := rfl
  have hitems : (State.start files.length s).extraction.items = [] := rfl
  obtain ⟨hescaped, hfinal⟩ := foldl_examineFile_of_plain hst hnodup hfiles hknows
  rw [hitems, List.nil_append] at hfinal
  simp only [List.nil_append] at hfinal
  exact ⟨hescaped, hfinal⟩

/-- **Which files are described alike in two orders.** Both examinations end and give one record for each
file. The two records of a file are the same if and only if its imports are found in both orders or in
neither, or running it with all its imports raises an exception or gives the record of its text. -/
theorem examineFiles_perm {files files' : List Path} (hperm : files.Perm files')
    (hstems : (files.map Path.stem).Nodup)
    (hfiles : ∀ p ∈ files, IsPlain d p) (hs : keepsStandard s = true) :
    let st := examineFiles (Registry.initial none true) d files s
    let st' := examineFiles (Registry.initial none true) d files' s
    st.escaped = none ∧ st'.escaped = none ∧
      (st.extraction.items = files.map fun p => .module (recordIn d s files p)) ∧
      (st'.extraction.items = files'.map fun p => .module (recordIn d s files' p)) ∧
      ∀ p ∈ files, (recordIn d s files p = recordIn d s files' p ↔
        isReady d s (before files p) p = isReady d s (before files' p) p ∨
          isRaising d p = true ∨ complete? d p = some (outlineOf d p)) := by
  have hnodup : files.Nodup := hstems.of_map _
  obtain ⟨hescaped, hitems⟩ := examineFiles_of_plain hnodup hfiles hs
  obtain ⟨hescaped', hitems'⟩ := examineFiles_of_plain (hperm.nodup_iff.mp hnodup)
    (fun p hp => hfiles p (hperm.mem_iff.mpr hp)) hs
  refine ⟨hescaped, hescaped', hitems, hitems', fun p hp => ?_⟩
  rw [← complete?_eq_none_iff (hfiles p hp).followed]
  exact recordAfter_eq_iff _ _ p

/-! ### Two files that go together -/

namespace Siblings

/-- A file that imports another one and has a function. -/
def importer : Path := ⟨.here, ["p", "a.py"]⟩

/-- The file that it imports. -/
def imported : Path := ⟨.here, ["p", "b.py"]⟩

/-- The disk with the two files. -/
def disk : Disk := .ofTexts [] [
  (importer.parts, "import b\ndef f()->int:'Returns:\\nn: m'\n"), (imported.parts, "")]

/-- Both files are sources. -/
theorem isSource : ∀ p ∈ [importer, imported], IsSource disk p := by
  decide +kernel

/-- Both files are simple, are followed to their ends and have names of their own. -/
theorem all_isSimpleFile_and_isFollowed : ([importer, imported].all fun p =>
    isSimpleFile disk p && isFollowed disk p && !isStandard p.stem) = true := by
  decide +kernel

/-- Both files are plain. -/
theorem isPlain : ∀ p ∈ [importer, imported], IsPlain disk p := by
  intro p hp
  have h := List.all_eq_true.mp all_isSimpleFile_and_isFollowed p hp
  simp only [Bool.and_eq_true, Bool.not_eq_true'] at h
  exact ⟨isSource p hp, h.1.1, h.1.2, h.2⟩

/-- The import is found only after the other file, and the function has its type written in one way if
the file is run and in another one if it is not. -/
theorem isReady_and_returnTypes_importer :
    isReady disk .empty [] importer = false ∧ isReady disk .empty [imported] importer = true ∧
      ((complete? disk importer).map fun m => m.functions.map (·.returnType)) =
        some [some "<class 'int'>"] ∧
      (outlineOf disk importer).functions.map (·.returnType) = [some "int"] := by
  decide +kernel

/-- The importing file comes first, or last. -/
theorem before_importer :
    before [importer, imported] importer = [] ∧ before [imported, importer] importer = [imported] := by
  decide +kernel

/-- The first file has different records in the two orders. -/
theorem recordIn_ne : recordIn disk .empty [importer, imported] importer ≠
    recordIn disk .empty [imported, importer] importer := by
  obtain ⟨hfirst, hsecond, hcomplete, houtline⟩ := isReady_and_returnTypes_importer
  rw [recordIn, recordIn, before_importer.1, before_importer.2, Ne, recordAfter_eq_iff, hfirst, hsecond]
  rintro (h | h | h)
  · cases h
  · rw [h] at hcomplete
    cases hcomplete
  · rw [h, Option.map_some, houtline] at hcomplete
    exact absurd hcomplete (by decide)

end Siblings

open Siblings

/-- The second file has the same record in both orders, and the first one has not. -/
theorem examineFiles_perm_siblings :
    [importer, imported].Perm [imported, importer] ∧
      ([importer, imported].map Path.stem).Nodup ∧
      (∀ p ∈ [importer, imported], IsPlain disk p) ∧ keepsStandard .empty = true ∧
      recordIn disk .empty [importer, imported] imported =
        recordIn disk .empty [imported, importer] imported ∧
      recordIn disk .empty [importer, imported] importer ≠
        recordIn disk .empty [imported, importer] importer := by
  have hperm : [importer, imported].Perm [imported, importer] := .swap imported importer []
  have hstems : ([importer, imported].map Path.stem).Nodup := by decide +kernel
  obtain ⟨-, -, -, -, hsame⟩ := examineFiles_perm hperm hstems isPlain (s := .empty) rfl
  refine ⟨hperm, hstems, isPlain, rfl, (hsame imported (by simp)).mpr (.inl ?_), recordIn_ne⟩
  decide +kernel

/-- **The order of files can matter.** A file that imports another one is described by its text before
it and by what it defines after it. -/
theorem not_forall_same_record :
    ¬ ∀ (d : Disk) (files files' : List Path) (s : Store), files.Perm files' →
      (files.map Path.stem).Nodup → (∀ p ∈ files, IsSource d p) →
      ∃ record : Path → ModuleRecord,
        ((examineFiles (Registry.initial none true) d files s).extraction.items =
          files.map fun p => .module (record p)) ∧
        ((examineFiles (Registry.initial none true) d files' s).extraction.items =
          files'.map fun p => .module (record p)) := by
  intro h
  have hperm : [importer, imported].Perm [imported, importer] := .swap imported importer []
  have hstems : ([importer, imported].map Path.stem).Nodup := by decide +kernel
  have hnodup := hstems.of_map
  obtain ⟨record, hitems, hitems'⟩ := h disk _ _ .empty hperm hstems Siblings.isSource
  rw [(examineFiles_of_plain hnodup isPlain rfl).2] at hitems
  rw [(examineFiles_of_plain (hperm.nodup_iff.mp hnodup)
    (fun p hp => isPlain p (hperm.mem_iff.mpr hp)) rfl).2] at hitems'
  simp only [List.map_cons, List.map_nil, List.cons.injEq, Item.module.injEq, and_true] at hitems hitems'
  exact recordIn_ne (hitems.1.trans hitems'.2.symm)

end Examination

end Codebook
