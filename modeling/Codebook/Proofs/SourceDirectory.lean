import Mathlib
import Codebook.Proofs.Examinations
import Codebook.Proofs.Listing

/-!
# Searching the directory for sources twice

A search of the current directory by a dot first lists its directory `src` as a directory of its
own, and then the current directory with all that is below it. The first time a file in `src` is
held against the ignore file and the test settings of `src`, the second time against those of the
current directory. `Admitted` is what the second time asks for on top of the first, so that a file
is in both listings exactly if it is in the first one and admitted (`mem_iff_admitted`).

* `nodup_iff_none_admitted`: a search finds no file twice exactly if no file that is listed in `src`
  is admitted. An examination of files of which none is there twice has at most one module record
  for each.
* `not_forall_nodup`: a project with a file in `src` is enough for that file to be found twice.
-/

namespace Codebook

open Text Codebook.Path

/-! ## One name further down -/

namespace Disk

/-- Following one name more leads to an entry of what is there before. -/
theorem follow_concat_eq_ok {n : String} (hn : n ≠ "..") {u : Tree} :
    ∀ (ns : List String) {above : List Tree} {t : Tree}, follow above t (ns ++ [n]) = .ok u →
      ∃ es, follow above t ns = .ok (.dir es) ∧ (n, u) ∈ es
  | [], above, t, h => by
    rcases t with bytes | es
    · simp [follow] at h
    · refine ⟨es, rfl, ?_⟩
      simp only [List.nil_append, follow, beq_iff_eq, hn, if_false] at h
      split at h
      · rename_i m v hfind
        obtain rfl : m = n := by simpa using List.find?_some hfind
        rw [← Except.ok.inj h]
        exact List.mem_of_find?_eq_some hfind
      · simp at h
  | m :: ns, above, t, h => by
    rcases t with bytes | es
    · simp [follow] at h
    · simp only [List.cons_append, follow] at h ⊢
      by_cases hm : (m == "..") = true
      · rw [if_pos hm] at h ⊢
        rcases above with _ | ⟨a, above⟩
        · exact follow_concat_eq_ok hn ns h
        · exact follow_concat_eq_ok hn ns h
      · rw [if_neg hm] at h ⊢
        split at h
        · exact follow_concat_eq_ok hn ns h
        · simp at h

/-- What is found one name below a directory is an entry of it. -/
theorem get_of_get_below {d : Disk} {p : Path} (ha : p.anchor = .root) {n : String} (hn : n ≠ "..")
    {u : Tree} (h : d.get (p.below [n]) = .ok u) :
    ∃ es, d.get p = .ok (.dir es) ∧ (n, u) ∈ es := by
  -- the text of `p` is the start of the longer one
  obtain ⟨t, ht⟩ : ∃ t, (p.below [n]).toString = p.toString ++ t := by
    by_cases hp : p.parts = []
    · exact ⟨n, toString_below_of_nil ha hp n⟩
    · exact ⟨"/" ++ n, by rw [toString_below_of_ne_nil ha hp, String.append_assoc]⟩
  unfold Disk.get at h
  split_ifs at h with hnull hlong
  have hnull' : ¬ p.hasNull = true := by
    intro hc
    refine hnull ?_
    simp only [hasNull, ht, String.toList_append] at hc ⊢
    simpa using .inl (by simpa using hc)
  have hlong' : ¬ pathLimit ≤ p.toString.utf8ByteSize := by
    rw [ht, String.utf8ByteSize_append] at hlong
    omega
  have hroute : d.route (p.below [n]) = d.route p ++ [n] := by
    simp [route, ha]
  rw [hroute] at h
  obtain ⟨es, hes, hmem⟩ := follow_concat_eq_ok hn _ h
  exact ⟨es, by rw [Disk.get, if_neg hnull', if_neg hlong', hes], hmem⟩

end Disk

namespace Search

/-! ## Files in both listings -/

/-- What is said in the directory with the absolute path `root` lets a file in its directory for
sources through: neither the search nor the test settings exclude the name of that directory, and
neither the ignore file nor the test settings leave out the file. -/
structure Admitted (o : Options) (st : TestNaming.Settings) (ps : List String) (root file : Path) :
    Prop where
  entered : "src" ∉ o.excluded ∧ "src" ∉ st.paths.getD []
  unignored : o.useIgnoreFile = true → Ignore.ignored ps root file (.ok false) = .ok false
  untested : o.includeTests = false → TestNaming.isTest st.patterns file = .ok false

/-- In a listing no file is there twice. -/
theorem IsListing.nodup {d : Disk} {o : Options} {dir : Path} {fs : List Path}
    (h : IsListing d o dir fs) : fs.Nodup := by
  obtain ⟨_, _, -, -, -, hord⟩ := h
  exact hord.imp fun {p q} hb (he : p = q) => Before.irrefl (he ▸ hb)

section Twice

/-- The directory for sources has names as parts too. -/
theorem names_source {root : Path} (hn : ∀ n ∈ root.parts, IsName n) :
    ∀ n ∈ (root.below ["src"]).parts, IsName n := by
  intro n hmem
  rcases List.mem_append.mp hmem with hmem | hmem
  · exact hn n hmem
  · rw [List.mem_singleton.mp hmem]
    decide

variable {d : Disk} {o : Options} {dir : Path} {st : TestNaming.Settings} {ps : List String}
  (hn : ∀ n ∈ (d.resolve dir).parts, IsName n)

include hn

/-- The source directory is resolved already. -/
theorem resolve_source :
    d.resolve ((d.resolve dir).below ["src"]) = (d.resolve dir).below ["src"] :=
  d.resolve_eq_self rfl (names_source hn)

/-- A file that belongs to the listing of the directory for sources belongs to that of the directory
above exactly if it is admitted there. -/
theorem belongs_iff_admitted {st' : TestNaming.Settings} {ps' cs : List String} {f : String}
    (hb : Belongs d { o with excluded := o.excluded ++ st.paths.getD [] }
      ((d.resolve dir).below ["src"]) st' ps' cs f) :
    Belongs d o dir st ps ("src" :: cs) f ↔
      Admitted o st ps (d.resolve dir) (((d.resolve dir).below ["src"]).below (cs ++ [f])) := by
  rw [below_below]
  constructor
  · intro h
    exact ⟨h.entered "src" List.mem_cons_self, h.unignored, h.untested⟩
  · intro h
    refine ⟨?_, ?_, hb.source, hb.visible, h.unignored, h.untested⟩
    · obtain ⟨t, ht, hf⟩ := hb.file
      rw [resolve_source hn] at ht
      obtain ⟨es, hes, hmem⟩ := Disk.get_of_get_below rfl (by decide) ht
      exact ⟨.dir es, hes, .inside hmem hf⟩
    · intro c hc
      rcases List.mem_cons.mp hc with rfl | hc
      · exact h.entered
      · simpa [not_or] using (hb.entered c hc).1

/-- A file that is listed in the directory for sources is listed with the directory above exactly if
it is admitted there. -/
theorem mem_iff_admitted {first rest : List Path}
    (hfirst : IsListing d { o with excluded := o.excluded ++ st.paths.getD [] }
      ((d.resolve dir).below ["src"]) first)
    (hrest : ∀ p, p ∈ rest ↔
      ∃ cs f, p = (d.resolve dir).below (cs ++ [f]) ∧ Belongs d o dir st ps cs f)
    {file : Path} (hfile : file ∈ first) :
    file ∈ rest ↔ Admitted o st ps (d.resolve dir) file := by
  obtain ⟨st', ps', -, -, hmem, -⟩ := hfirst
  obtain ⟨cs, f, rfl, hb⟩ := (hmem file).mp hfile
  rw [resolve_source hn, ← belongs_iff_admitted hn hb, hrest, below_below]
  constructor
  · rintro ⟨cs', f', he, hb'⟩
    have hparts : "src" :: cs ++ [f] = cs' ++ [f'] := below_injective _ he
    obtain ⟨rfl, hf⟩ := List.append_inj' hparts rfl
    rwa [List.singleton_inj.mp hf]
  · intro hb'
    exact ⟨"src" :: cs, f, rfl, hb'⟩

/-- Of the two listings one after the other no file is there twice exactly if none is admitted: each
by itself has no file twice. -/
theorem nodup_append_iff {first rest : List Path}
    (hfirst : IsListing d { o with excluded := o.excluded ++ st.paths.getD [] }
      ((d.resolve dir).below ["src"]) first)
    (hrest : ∀ p, p ∈ rest ↔
      ∃ cs f, p = (d.resolve dir).below (cs ++ [f]) ∧ Belongs d o dir st ps cs f)
    (hnodup : rest.Nodup) :
    (first ++ rest).Nodup ↔ ∀ file ∈ first, ¬ Admitted o st ps (d.resolve dir) file := by
  rw [List.nodup_append', and_iff_right hfirst.nodup, and_iff_right hnodup, List.disjoint_left]
  exact forall₂_congr fun file hfile => not_congr (mem_iff_admitted hn hfirst hrest hfile)

end Twice

/-- What is listed of a directory is its listing. -/
theorem list_isListing {d : Disk} (hd : d.WellFormed) {o : Options} {dir : Path} {fs : List Path}
    (hn : ∀ n ∈ (d.resolve dir).parts, IsName n) (h : list d o dir = .ok fs) :
    IsListing d o dir fs := by
  obtain ⟨s, hs, h⟩ := Result.bind_eq_ok.mp h
  exact isListing_of_survey hd hn hs h

/-- The files of a listing are absolute paths with names as parts. -/
theorem IsListing.names {d : Disk} (hd : d.WellFormed) {o : Options} {dir : Path} {fs : List Path}
    (hn : ∀ n ∈ (d.resolve dir).parts, IsName n) (h : IsListing d o dir fs) {p : Path}
    (hp : p ∈ fs) :
    p.anchor = .root ∧ ∀ n ∈ p.parts, IsName n := by
  obtain ⟨_, _, -, -, hmem, -⟩ := h
  obtain ⟨cs, f, rfl, hb⟩ := (hmem p).mp hp
  obtain ⟨t, ht, hf⟩ := hb.file
  refine ⟨rfl, fun n hmem => ?_⟩
  rcases List.mem_append.mp hmem with hmem | hmem
  · exact hn n hmem
  · exact hf.isName (hd.get ht) n hmem

end Search

/-! ## Records of files -/

/-- A record that is taken of a file names it. -/
theorem Inspection.inspectWith_origin {run : Runner} {d : Disk} {path : Path} {s : Live.Store}
    {m : ModuleRecord} (h : (inspectWith run d path s).1 = .ok m) :
    m.origin.file = path.toString := by
  cases hread : d.read path with
  | error e => simp [inspectWith, hread] at h
  | ok code =>
    rcases inspectWith_of_read hread run s with ⟨-, r, hr, hfile⟩ | ⟨e, -, he⟩
    · cases hr.symm.trans h
      exact hfile
    · cases he.symm.trans h

namespace Examination

/-- The files that the module records among some items name, in order. -/
def recordFiles (items : List Item) : List String :=
  (items.filterMap Item.module?).map (·.origin.file)

/-- The files of records, part by part. -/
theorem recordFiles_append (xs ys : List Item) :
    recordFiles (xs ++ ys) = recordFiles xs ++ recordFiles ys := by
  simp [recordFiles]

/-- At most one of the extractors that the program starts with takes a file. -/
theorem forFile_initial_cases (setting : Option String) (loads : Bool) (path : Path) :
    (Registry.initial setting loads).forFile path = [] ∨
      (Registry.initial setting loads).forFile path = [Extractor.python loads] := by
  rw [Registry.forFile, Registry.initial]
  split_ifs
  · have hall : (Registry.empty.registerDefaults loads).extractors = [Extractor.python loads] := rfl
    rw [hall]
    cases hacc : (Extractor.python loads).accepts path with
    | true => exact .inr (by simp [hacc])
    | false => exact .inl (by simp [hacc])
  · exact .inl rfl

section Run

variable (setting : Option String) (loads : Bool) (d : Disk)

/-- The extractor of source files adds at most one module record, and that names the file. -/
theorem apply_python_items (path : Path) (st : State) :
    ∃ items, (recordFiles items).Sublist [path.toString] ∧
      (apply d path st (Extractor.python loads)).extraction.items =
        st.extraction.items ++ items := by
  have hnone : (recordFiles []).Sublist [path.toString] := List.nil_sublist _
  unfold apply
  split_ifs
  · exact ⟨[], hnone, (List.append_nil _).symm⟩
  · cases hm : (Inspection.inspectWith (Inspection.running loads) d path st.session).1 with
    | ok m =>
      refine ⟨[.module m], ?_, ?_⟩
      · rw [← Inspection.inspectWith_origin hm]
        exact List.Sublist.refl _
      · simp [Extractor.python, Extractor.pythonWith, hm, Extractor.outcomeOf]
    | error e =>
      refine ⟨[], hnone, ?_⟩
      cases e <;> simp [Extractor.python, Extractor.pythonWith, hm, Extractor.outcomeOf]

/-- Examining a file adds at most one module record, and that names the file. -/
theorem examineFile_items (path : Path) (st : State) :
    ∃ items, (recordFiles items).Sublist [path.toString] ∧
      (examineFile (Registry.initial setting loads) d st path).extraction.items =
        st.extraction.items ++ items := by
  have hnone : (recordFiles []).Sublist [path.toString] := List.nil_sublist _
  unfold examineFile
  split_ifs
  · exact ⟨[], hnone, (List.append_nil _).symm⟩
  · rcases forFile_initial_cases setting loads path with hr | hr
    · rw [hr]
      exact ⟨[], hnone, (List.append_nil _).symm⟩
    · rw [hr]
      exact apply_python_items loads d path _

/-- The records of an examination name some of its files, each at most as often as it is there. -/
theorem recordFiles_examineFiles (files : List Path) (s : Live.Store) :
    (recordFiles (examineFiles (Registry.initial setting loads) d files s).extraction.items).Sublist
      (files.map Path.toString) := by
  have hrun : ∀ (files : List Path) (st : State),
      ∃ items, (recordFiles items).Sublist (files.map Path.toString) ∧
        (files.foldl (examineFile (Registry.initial setting loads) d) st).extraction.items =
          st.extraction.items ++ items := by
    intro files
    induction files with
    | nil => exact fun st => ⟨[], List.Sublist.refl _, (List.append_nil _).symm⟩
    | cons path files ih =>
      intro st
      obtain ⟨xs, hxs, hstep⟩ := examineFile_items setting loads d path st
      obtain ⟨ys, hys, hrest⟩ := ih (examineFile (Registry.initial setting loads) d st path)
      refine ⟨xs ++ ys, recordFiles_append xs ys ▸ hxs.append hys, ?_⟩
      rw [List.foldl_cons, hrest, hstep, List.append_assoc]
  obtain ⟨items, hitems, hfinal⟩ := hrun files (.start files.length s)
  rw [examineFiles, hfinal]
  exact hitems

end Run

end Examination

/-! ## Files that are found twice -/

namespace Search

/-- The files that a search finds are absolute paths with names as parts. -/
theorem find_names {d : Disk} (hd : d.WellFormed) {o : Options} {directory : String}
    {fs : List Path} (h : find d o directory = .ok fs) {p : Path} (hp : p ∈ fs) :
    p.anchor = .root ∧ ∀ n ∈ p.parts, IsName n := by
  have hn := hd.resolve_ofString directory
  obtain ⟨st, -, hfind⟩ := find_isListing hd h
  split_ifs at hfind
  · obtain ⟨first, rest, rfl, hfirst, hrest⟩ := hfind
    rcases List.mem_append.mp hp with hp | hp
    · exact hfirst.names hd (by rw [resolve_source hn]; exact names_source hn) hp
    · exact hrest.names hd hn hp
  · exact hfind.names hd hn hp

/-- Files of which none is found twice have texts of which none is there twice. -/
theorem nodup_texts {d : Disk} (hd : d.WellFormed) {o : Options} {directory : String}
    {fs : List Path} (h : find d o directory = .ok fs) (hnodup : fs.Nodup) :
    (fs.map Path.toString).Nodup := by
  refine hnodup.map_on fun p hp q hq he => ?_
  obtain ⟨hpa, hpn⟩ := find_names hd h hp
  obtain ⟨hqa, hqn⟩ := find_names hd h hq
  rw [← ofString_toString hpa hpn, he, ofString_toString hqa hqn]

/-- If no file is found twice, an examination of what is found has at most one record for each. -/
theorem nodup_recordFiles {d : Disk} (hd : d.WellFormed) {o : Options} {directory : String}
    {fs : List Path} (h : find d o directory = .ok fs) (hnodup : fs.Nodup) (setting : Option String)
    (loads : Bool) (s : Live.Store) (final : Examination.State)
    (hfinal : Examination.examineDirectory (Registry.initial setting loads) d o directory s =
      .ok final) :
    (Examination.recordFiles final.extraction.items).Nodup := by
  obtain ⟨files, hfiles, hfinal⟩ := Result.bind_eq_ok.mp hfinal
  obtain rfl : fs = files := Except.ok.inj (h.symm.trans hfiles)
  rw [← Except.ok.inj hfinal]
  exact (nodup_texts hd h hnodup).sublist
    (Examination.recordFiles_examineFiles setting loads d fs s)

/-- **When no file is found twice.** A search finds a file twice exactly if it is asked for the
current directory by a dot and one of the files that it lists in the directory `src` is admitted by
what is said in the current directory. Where no file is found twice, an examination of what is found
has at most one module record for each file. -/
theorem nodup_iff_none_admitted {d : Disk} (hd : d.WellFormed) {o : Options} {directory : String}
    {fs : List Path} (h : find d o directory = .ok fs) :
    let dir := ofString directory
    let root := d.resolve dir
    let src := root.below ["src"]
    ∃ st ps, TestNaming.settings d dir = .ok st ∧
      (o.useIgnoreFile = true → Ignore.ofDirectory d dir = .ok ps) ∧
      (fs.Nodup ↔ (directory = "." → d.isDir src = .ok true →
        ∃ first, list d { o with excluded := o.excluded ++ st.paths.getD [] } src = .ok first ∧
          ∀ file ∈ first, ¬ Admitted o st ps root file)) ∧
      (fs.Nodup → ∀ setting loads s final,
        Examination.examineDirectory (Registry.initial setting loads) d o directory s = .ok final →
        (Examination.recordFiles final.extraction.items).Nodup) := by
  intro dir root src
  have hn := hd.resolve_ofString directory
  have hrecords := nodup_recordFiles hd h
  obtain ⟨s, hs, hfind⟩ := find_eq_ok h
  obtain ⟨st', _, hst', -, -, rfl⟩ := survey_eq_ok hs
  rw [show sourceDirectory root = src from child_eq_below (by decide)] at hfind
  by_cases hdot : directory = "." ∧ d.isDir src = .ok true
  · rw [if_pos hdot] at hfind
    obtain ⟨first, rest, hfirst, hrest, rfl⟩ := hfind
    have hlisted := isListing_of_survey hd hn hs hrest
    have hnodup := hlisted.nodup
    obtain ⟨st, ps, hst, hps, hmem, -⟩ := hlisted
    obtain rfl : st = st' := Except.ok.inj (hst.symm.trans hst')
    have hsrc := list_isListing hd (resolve_source hn ▸ names_source hn) hfirst
    refine ⟨st, ps, hst, hps, ?_, hrecords⟩
    rw [nodup_append_iff hn hsrc hmem hnodup]
    constructor
    · exact fun hnone _ _ => ⟨first, hfirst, hnone⟩
    · intro hnone
      obtain ⟨first', hfirst', hnone⟩ := hnone hdot.1 hdot.2
      obtain rfl : first = first' := Except.ok.inj (hfirst.symm.trans hfirst')
      exact hnone
  · rw [if_neg hdot] at hfind
    have hlisted := isListing_of_survey hd hn hs hfind
    have hnodup := hlisted.nodup
    obtain ⟨st, ps, hst, hps, -, -⟩ := hlisted
    exact ⟨st, ps, hst, hps, ⟨fun _ h₁ h₂ => absurd ⟨h₁, h₂⟩ hdot, fun _ => hnodup⟩, hrecords⟩

/-- A project with a file in its directory for sources and one beside it. -/
def layoutDisk : Disk := .ofTexts ["home"]
  [(["home", "b.py"], ""), (["home", "src", "a.py"], "")]

/-- What a search for that project by a dot finds. -/
def layoutFiles : List Path :=
  ["src/a.py", "b.py", "src/a.py"].map fun s => ofString ("/home/" ++ s)

/-- The first sample is well-formed. -/
theorem wellFormed_layoutDisk : layoutDisk.WellFormed :=
  Disk.wellFormed_ofTexts (by decide) (by decide)

/-- The files that are found in it. -/
theorem find_layoutDisk : find layoutDisk .default "." = .ok layoutFiles := by
  decide +kernel

/-- The same project with an ignore file that names the file in `src`. -/
def guardedDisk : Disk := .ofTexts ["home"]
  [(["home", ".gitignore"], "a.py\n"), (["home", "b.py"], ""), (["home", "src", "a.py"], "")]

/-- What a search for that project by a dot finds: the ignore file counts only the second time. -/
def guardedFiles : List Path :=
  ["src/a.py", "b.py"].map fun s => ofString ("/home/" ++ s)

/-- The second sample is well-formed. -/
theorem wellFormed_guardedDisk : guardedDisk.WellFormed :=
  Disk.wellFormed_ofTexts (by decide) (by decide)

/-- The files that are found in it. -/
theorem find_guardedDisk : find guardedDisk .default "." = .ok guardedFiles := by
  decide +kernel

/-- The ignored file is listed in `src` but not admitted, so that no file is found twice and there
is at most one record of each. -/
theorem nodup_guardedDisk :
    guardedDisk.WellFormed ∧ find guardedDisk .default "." = .ok guardedFiles ∧
      guardedFiles.Nodup ∧
      (∃ st ps first, list guardedDisk
          ⟨defaultExcluded ++ st.paths.getD [], true, false, true⟩ (ofString "/home/src") =
            .ok first ∧ ∀ file ∈ first, ¬ Admitted .default st ps (ofString "/home") file) ∧
      ∀ final, Examination.examineDirectory (Registry.initial none true) guardedDisk .default "."
        .empty = .ok final → (Examination.recordFiles final.extraction.items).Nodup := by
  have hnodup : guardedFiles.Nodup := by decide +kernel
  obtain ⟨st, ps, -, -, hiff, hrecords⟩ :=
    nodup_iff_none_admitted wellFormed_guardedDisk find_guardedDisk
  obtain ⟨first, hfirst, hnone⟩ := hiff.mp hnodup rfl (by decide +kernel)
  exact ⟨wellFormed_guardedDisk, find_guardedDisk, hnodup, ⟨st, ps, first, hfirst, hnone⟩,
    fun final hfinal => hrecords hnodup none true .empty final hfinal⟩

/-- **A file can be found twice.** -/
theorem not_forall_nodup :
    ¬ ∀ (d : Disk) (o : Options) (directory : String) (fs : List Path), d.WellFormed →
      find d o directory = .ok fs → fs.Nodup := by
  intro h
  have hnodup := h layoutDisk .default "." layoutFiles wellFormed_layoutDisk find_layoutDisk
  exact absurd hnodup (by decide +kernel)

end Search

end Codebook
