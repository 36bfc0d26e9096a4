import Mathlib
import Codebook.Proofs.IgnoreRules
import Codebook.Proofs.Result
import Codebook.Proofs.Walk
import Codebook.Search

/-!
# What a search lists

The result of `Search.find` is said here without a walk. `Belongs` gives the conditions under which
the file `root/c₁/…/cₖ/f` belongs to the listing of a directory: the names on the way are not
excluded, the name of the file is that of a source file, and neither the ignore file of the directory
nor its test settings leave the file out. `IsListing` adds the order of a walk from the top down.
There is only one listing of a directory (`IsListing.unique`).

The main statement is `find_eq_listing`: a search that gives a result gives the listing of its
directory, and if it is asked for the current directory by a dot and there is a directory `src`,
the listing of that one before it. The directories that the patterns of the ignore file match are
not among the conditions: these patterns are only ever compared with files.
-/

namespace Codebook

open Text Codebook.Path

namespace Search

/-! ## The listing of a directory -/

/-- The file `root/c₁/…/cₖ/f` belongs to the listing of the directory `dir` with the absolute path
`root`, the test settings `st` and the ignore patterns `ps`. -/
structure Belongs (d : Disk) (o : Options) (dir : Path) (st : TestNaming.Settings)
    (ps : List String) (cs : List String) (f : String) : Prop where
  /-- The file is there. -/
  file : ∃ t, d.get (d.resolve dir) = .ok t ∧ t.HasFile (cs ++ [f])
  /-- No directory on the way is excluded by the search or by the test settings. -/
  entered : ∀ c ∈ cs, c ∉ o.excluded ∧ c ∉ st.paths.getD []
  /-- The file is a source file by its name. -/
  source : ".py".toList <:+ f.toList
  /-- Its name does not start with a dot if such files are left out. -/
  visible : o.skipDotfiles = true → ¬ ".".toList <+: f.toList
  /-- The ignore file does not match it. -/
  unignored : o.useIgnoreFile = true →
    Ignore.ignored ps (d.resolve dir) ((d.resolve dir).below (cs ++ [f])) (.ok false) = .ok false
  /-- It is no test, unless tests are asked for. -/
  untested : o.includeTests = false →
    TestNaming.isTest st.patterns ((d.resolve dir).below (cs ++ [f])) = .ok false

/-- The files that belong to the listing of a directory, in the order of a walk, which also means that
each is there once. -/
def IsListing (d : Disk) (o : Options) (dir : Path) (files : List Path) : Prop :=
  ∃ st ps, TestNaming.settings d dir = .ok st ∧
    (o.useIgnoreFile = true → Ignore.ofDirectory d dir = .ok ps) ∧
    (∀ p, p ∈ files ↔ ∃ cs f, p = (d.resolve dir).below (cs ++ [f]) ∧ Belongs d o dir st ps cs f) ∧
    files.Pairwise fun p q => Before p.parts q.parts

/-- A directory has one listing. -/
theorem IsListing.unique {d : Disk} {o : Options} {dir : Path} {fs gs : List Path}
    (hf : IsListing d o dir fs) (hg : IsListing d o dir gs) : fs = gs := by
  obtain ⟨st, ps, hst, hps, hmem, hord⟩ := hf
  obtain ⟨st', ps', hst', hps', hmem', hord'⟩ := hg
  obtain rfl : st = st' := Except.ok.inj (hst.symm.trans hst')
  refine eq_of_pairwise_before hord hord' fun p => ?_
  rw [hmem, hmem']
  refine exists_congr fun cs => exists_congr fun f => and_congr_right fun _ => ?_
  -- the patterns only count where they are read, and then they are the same
  have hsame : o.useIgnoreFile = true → ps = ps' := fun hu =>
    Except.ok.inj ((hps hu).symm.trans (hps' hu))
  constructor
  · intro h
    exact ⟨h.file, h.entered, h.source, h.visible, fun hu => hsame hu ▸ h.unignored hu, h.untested⟩
  · intro h
    exact ⟨h.file, h.entered, h.source, h.visible, fun hu => hsame hu ▸ h.unignored hu, h.untested⟩

/-- There is one listing at most. -/
theorem IsListing.eq_iff {d : Disk} {o : Options} {dir : Path} {fs : List Path}
    (hf : IsListing d o dir fs) (gs : List Path) : IsListing d o dir gs ↔ gs = fs :=
  ⟨fun hg => hg.unique hf, fun he => he ▸ hf⟩

/-! ## The parts of a search -/

/-- A survey puts together what is read in the directory. -/
theorem survey_eq_ok {d : Disk} {o : Options} {dir : Path} {s : Survey}
    (h : survey d o dir = .ok s) :
    ∃ st ps, TestNaming.settings d dir = .ok st ∧
      (o.useIgnoreFile = true → Ignore.ofDirectory d dir = .ok ps) ∧
      (o.useIgnoreFile = false → ps = []) ∧
      s = ⟨d.resolve dir, o.excluded ++ st.paths.getD [], ps.map Ignore.Rule.ofPattern,
        st.patterns⟩ := by
  unfold survey at h
  obtain ⟨st, hst, h⟩ := Result.bind_eq_ok.mp h
  have hst := Result.mapError_eq_ok.mp hst
  simp only at h
  split at h
  · rename_i hu
    obtain ⟨ps, hps, h⟩ := Result.bind_eq_ok.mp h
    obtain ⟨root, hroot, h⟩ := Result.bind_eq_ok.mp h
    have hroot := Disk.locate_eq_ok (Result.mapError_eq_ok.mp hroot)
    refine ⟨st, ps, hst, fun _ => Result.mapError_eq_ok.mp hps, fun hf => by simp [hf] at hu, ?_⟩
    exact hroot ▸ (Except.ok.inj h).symm
  · rename_i hu
    obtain ⟨ps, hps, h⟩ := Result.bind_eq_ok.mp h
    obtain ⟨root, hroot, h⟩ := Result.bind_eq_ok.mp h
    have hroot := Disk.locate_eq_ok (Result.mapError_eq_ok.mp hroot)
    refine ⟨st, ps, hst, fun ht => absurd ht hu, fun _ => (Except.ok.inj hps).symm, ?_⟩
    exact hroot ▸ (Except.ok.inj h).symm

/-- A name is wanted if it is that of a source file and not hidden. -/
theorem wants_iff {o : Options} {f : String} :
    o.wants f = true ↔
      ".py".toList <:+ f.toList ∧ (o.skipDotfiles = true → ¬ ".".toList <+: f.toList) := by
  have hdot : (".".toList : List Char) = ['.'] := rfl
  rw [Options.wants, Bool.and_eq_true, endsWith_iff, hdot, ← startsWith_iff]
  refine and_congr_right fun _ => ?_
  cases o.skipDotfiles <;> simp

/-- A file is kept if it is neither ignored nor a test that is not asked for. -/
theorem keeps_eq_ok_true {s : Survey} {o : Options} {file : Path} :
    s.keeps o file = .ok true ↔
      Ignore.judge false (Ignore.pathText file s.root) s.rules = false ∧
        (o.includeTests = false → TestNaming.isTest s.patterns file = .ok false) := by
  unfold Survey.keeps
  cases hj : Ignore.judge false (Ignore.pathText file s.root) s.rules with
  | true => simp
  | false =>
    cases ht : o.includeTests with
    | true => simp
    | false =>
      cases hi : TestNaming.isTest s.patterns file with
      | error e => simp
      | ok test => simp

/-- The selected files are the kept ones, in their order. -/
theorem select_eq_ok {s : Survey} {o : Options} :
    ∀ {files fs : List Path}, s.select o files = .ok fs →
      fs.Sublist files ∧ ∀ f, f ∈ fs ↔ f ∈ files ∧ s.keeps o f = .ok true
  | [], fs, h => by
    have hfs : fs = [] := (Except.ok.inj h).symm
    simp [hfs]
  | g :: files, fs, h => by
    obtain ⟨kept, hk, h⟩ := Result.bind_eq_ok.mp h
    obtain ⟨rest, hr, h⟩ := Result.bind_eq_ok.mp h
    obtain ⟨hsub, hmem⟩ := select_eq_ok hr
    have hfs : fs = if kept then g :: rest else rest := (Except.ok.inj h).symm
    cases kept with
    | true =>
      rw [hfs, if_pos rfl]
      refine ⟨hsub.cons_cons g, fun f => ?_⟩
      rw [List.mem_cons, List.mem_cons, hmem]
      constructor
      · rintro (rfl | ⟨hf, hkf⟩)
        · exact ⟨.inl rfl, hk⟩
        · exact ⟨.inr hf, hkf⟩
      · rintro ⟨rfl | hf, hkf⟩
        · exact .inl rfl
        · exact .inr ⟨hf, hkf⟩
    | false =>
      rw [hfs, if_neg (by simp)]
      refine ⟨hsub.cons g, fun f => ?_⟩
      rw [hmem, List.mem_cons]
      constructor
      · rintro ⟨hf, hkf⟩
        exact ⟨.inr hf, hkf⟩
      · rintro ⟨rfl | hf, hkf⟩
        · rw [hk] at hkf
          simp at hkf
        · exact ⟨hf, hkf⟩

/-- The files that a walk meets are those of the tree that no excluded name leads to. -/
theorem mem_candidates {d : Disk} (hd : d.WellFormed) {s : Survey} {o : Options}
    (ha : s.root.anchor = .root) (hn : ∀ n ∈ s.root.parts, IsName n) (p : Path) :
    p ∈ s.candidates o d ↔ ∃ cs f, p = s.root.below (cs ++ [f]) ∧
      (∃ t, d.get s.root = .ok t ∧ t.HasFile (cs ++ [f])) ∧
      (∀ c ∈ cs, c ∉ s.excluded) ∧ o.wants f = true := by
  unfold Survey.candidates Disk.walk
  cases hg : d.get s.root with
  | error e => simp
  | ok t =>
    simp only [Except.ok.injEq, exists_eq_left']
    rw [Tree.flatMap_paths_walk o.wants (hd.get hg) ha hn, List.mem_map]
    simp only [List.mem_filter, Tree.mem_reached, List.contains_eq_mem, decide_eq_false_iff_not]
    constructor
    · rintro ⟨ns, ⟨⟨hf, hc⟩, hw⟩, rfl⟩
      obtain ⟨cs, f, rfl⟩ := (List.eq_nil_or_concat' ns).resolve_left hf.ne_nil
      refine ⟨cs, f, rfl, hf, ?_, ?_⟩
      · simpa using hc
      · simpa using hw
    · rintro ⟨cs, f, rfl, hf, hc, hw⟩
      exact ⟨cs ++ [f], ⟨⟨hf, by simpa using hc⟩, by simpa using hw⟩, rfl⟩

/-- Candidates come in the order of the walk. -/
theorem pairwise_candidates {d : Disk} (hd : d.WellFormed) {s : Survey} {o : Options}
    (ha : s.root.anchor = .root) (hn : ∀ n ∈ s.root.parts, IsName n) :
    (s.candidates o d).Pairwise fun p q => Before p.parts q.parts := by
  unfold Survey.candidates Disk.walk
  cases hg : d.get s.root with
  | error e => simp
  | ok t =>
    simp only
    rw [Tree.flatMap_paths_walk o.wants (hd.get hg) ha hn, List.pairwise_map]
    exact ((Tree.pairwise_reached (hd.get hg)).filter _).imp fun h => h.append_left s.root.parts

/-! ## The result of a search -/

/-- What a survey lists is the listing of its directory. -/
theorem isListing_of_survey {d : Disk} (hd : d.WellFormed) {o : Options} {dir : Path} {s : Survey}
    {fs : List Path} (hn : ∀ n ∈ (d.resolve dir).parts, IsName n)
    (hs : survey d o dir = .ok s) (h : s.list o d = .ok fs) : IsListing d o dir fs := by
  obtain ⟨st, ps, hst, hps, hnone, rfl⟩ := survey_eq_ok hs
  obtain ⟨hsub, hmem⟩ := select_eq_ok h
  refine ⟨st, ps, hst, hps, fun p => ?_, (pairwise_candidates hd rfl hn).sublist hsub⟩
  rw [hmem, mem_candidates hd rfl hn, keeps_eq_ok_true]
  constructor
  · rintro ⟨⟨cs, f, rfl, hfile, hent, hw⟩, hj, ht⟩
    obtain ⟨hsrc, hvis⟩ := wants_iff.mp hw
    refine ⟨cs, f, rfl, hfile, fun c hc => ?_, hsrc, hvis, fun _ => Ignore.ignored_eq_ok.mpr hj, ht⟩
    simpa [not_or] using hent c hc
  · rintro ⟨cs, f, rfl, hb⟩
    refine ⟨⟨cs, f, rfl, hb.file, fun c hc => ?_, wants_iff.mpr ⟨hb.source, hb.visible⟩⟩, ?_,
      hb.untested⟩
    · simpa [not_or] using hb.entered c hc
    · cases hu : o.useIgnoreFile with
      | true => exact Ignore.ignored_eq_ok.mp (hb.unignored hu)
      | false =>
        rw [hnone hu]
        rfl

/-- A search lists its directory, and a directory for sources before it if it is asked for the current
directory. -/
theorem find_eq_ok {d : Disk} {o : Options} {directory : String} {fs : List Path}
    (h : find d o directory = .ok fs) :
    ∃ s, survey d o (ofString directory) = .ok s ∧
      if directory = "." ∧ d.isDir (sourceDirectory s.root) = .ok true then
        ∃ first rest, list d { o with excluded := s.excluded } (sourceDirectory s.root) = .ok first ∧
          s.list o d = .ok rest ∧ fs = first ++ rest
      else s.list o d = .ok fs := by
  unfold find at h
  obtain ⟨s, hs, h⟩ := Result.bind_eq_ok.mp h
  refine ⟨s, hs, ?_⟩
  by_cases hdot : directory = "."
  · simp only [hdot, beq_self_eq_true, if_true] at h
    obtain ⟨inside, hin, h⟩ := Result.bind_eq_ok.mp h
    have hin := Result.mapError_eq_ok.mp hin
    cases inside with
    | true =>
      obtain ⟨first, hfirst, h⟩ := Result.bind_eq_ok.mp h
      obtain ⟨rest, hrest, h⟩ := Result.bind_eq_ok.mp h
      rw [if_pos ⟨hdot, hin⟩]
      exact ⟨first, rest, hfirst, hrest, (Except.ok.inj h).symm⟩
    | false =>
      rw [if_neg (by simp [hin])]
      simpa using h
  · simp only [beq_iff_eq, hdot, if_false] at h
    rw [if_neg (fun hc => hdot hc.1)]
    simpa using h

/-- Where a search gives a result, it is the listing of its directory, after that of the directory for
sources where that one is searched too. -/
theorem find_isListing {d : Disk} (hd : d.WellFormed) {o : Options} {directory : String}
    {fs : List Path} (h : find d o directory = .ok fs) :
    ∃ st, TestNaming.settings d (ofString directory) = .ok st ∧
      if directory = "." ∧ d.isDir ((d.resolve (ofString directory)).below ["src"]) = .ok true then
        ∃ first rest, fs = first ++ rest ∧
          IsListing d { o with excluded := o.excluded ++ st.paths.getD [] }
            ((d.resolve (ofString directory)).below ["src"]) first ∧
          IsListing d o (ofString directory) rest
      else IsListing d o (ofString directory) fs := by
  have hn := hd.resolve_ofString directory
  obtain ⟨s, hs, hfind⟩ := find_eq_ok h
  obtain ⟨st, ps, hst, -, -, rfl⟩ := survey_eq_ok hs
  refine ⟨st, hst, ?_⟩
  have hsrc : sourceDirectory (d.resolve (ofString directory)) =
      (d.resolve (ofString directory)).below ["src"] := child_eq_below (by decide)
  simp only [hsrc] at hfind
  split_ifs at hfind ⊢ with hdot
  · obtain ⟨first, rest, hfirst, hrest, rfl⟩ := hfind
    obtain ⟨s', hs', hfirst⟩ := Result.bind_eq_ok.mp hfirst
    refine ⟨first, rest, rfl, isListing_of_survey hd ?_ hs' hfirst,
      isListing_of_survey hd hn hs hrest⟩
    have hnsrc : ∀ n ∈ ((d.resolve (ofString directory)).below ["src"]).parts, IsName n := by
      intro n hmem
      rcases List.mem_append.mp hmem with hmem | hmem
      · exact hn n hmem
      · rw [List.mem_singleton.mp hmem]
        decide
    rw [Disk.resolve_eq_self d rfl hnsrc]
    exact hnsrc
  · exact isListing_of_survey hd hn hs hfind

/-- **The result of a search.** A search for which there is a result gives the one listing of its
directory. If it is asked for the current directory by a dot, and a directory `src` is there, the
listing of that directory comes first; the names that the test settings of the current directory
exclude are then excluded there too. Without a choice of excluded names the default ones are. -/
theorem find_eq_listing {d : Disk} (hd : d.WellFormed) (exclude : Option (List String))
    (skipDotfiles includeTests useIgnoreFile : Bool) (directory : String) {fs : List Path}
    (h : find d ⟨exclude.getD defaultExcluded, skipDotfiles, includeTests, useIgnoreFile⟩ directory =
      .ok fs) :
    let o : Options := ⟨exclude.getD defaultExcluded, skipDotfiles, includeTests, useIgnoreFile⟩
    let dir := ofString directory
    let src := (d.resolve dir).below ["src"]
    if directory = "." ∧ d.isDir src = .ok true then
      ∃ st first rest, TestNaming.settings d dir = .ok st ∧ fs = first ++ rest ∧
        (∀ gs, IsListing d { o with excluded := o.excluded ++ st.paths.getD [] } src gs ↔
          gs = first) ∧
        (∀ gs, IsListing d o dir gs ↔ gs = rest)
    else ∀ gs, IsListing d o dir gs ↔ gs = fs := by
  intro o dir src
  obtain ⟨st, hst, hfind⟩ := find_isListing hd h
  by_cases hdot : directory = "." ∧ d.isDir src = .ok true
  · rw [if_pos hdot] at hfind ⊢
    obtain ⟨first, rest, rfl, hfirst, hrest⟩ := hfind
    exact ⟨st, first, rest, hst, rfl, hfirst.eq_iff, hrest.eq_iff⟩
  · rw [if_neg hdot] at hfind ⊢
    exact hfind.eq_iff

/-- A project with sources in `src`, an ignore file whose first pattern is for directories only, and
test settings that name a directory. -/
def projectDisk : Disk := .ofTexts ["home"]
  [(["home", ".gitignore"], "gen/\n!draft_kept.py\ndraft_*\n"),
   (["home", "pytest.ini"], "[pytest]\ntestpaths = checks\npython_files = check_*.py\n"),
   (["home", "src", "b.py"], ""),
   (["home", "src", "a", "z.py"], ""),
   (["home", "src", "checks", "c.py"], ""),
   (["home", "src", "test_b.py"], ""),
   (["home", "gen", "g.py"], ""),
   (["home", "draft_1.py"], ""),
   (["home", "draft_kept.py"], ""),
   (["home", ".hidden.py"], ""),
   (["home", "check_1.py"], ""),
   (["home", "notes.txt"], "")]

/-- What a search for the project by a dot finds: the files in `src` come twice, and only the second
time with the file that is a test by the usual settings but not by those of the project. -/
def projectFiles : List Path :=
  ["src/b.py", "src/a/z.py", "check_1.py", "draft_kept.py", "gen/g.py", "src/b.py", "src/test_b.py",
    "src/a/z.py"].map fun s => ofString ("/home/" ++ s)

/-- The sources are listed first, and then the whole project. -/
theorem find_projectDisk :
    find projectDisk .default "." = .ok projectFiles ∧
    ∃ st first rest, TestNaming.settings projectDisk (ofString ".") = .ok st ∧
      projectFiles = first ++ rest ∧
      (∀ gs, IsListing projectDisk ⟨defaultExcluded ++ st.paths.getD [], true, false, true⟩
        ((projectDisk.resolve (ofString ".")).below ["src"]) gs ↔ gs = first) ∧
      (∀ gs, IsListing projectDisk ⟨defaultExcluded, true, false, true⟩ (ofString ".") gs ↔
        gs = rest) := by
  have hd : projectDisk.WellFormed := Disk.wellFormed_ofTexts (by decide) (by decide)
  have hfind : find projectDisk .default "." = .ok projectFiles := by decide +kernel
  have h := find_eq_listing hd none true false true "." hfind
  dsimp only at h
  rw [if_pos (by decide +kernel)] at h
  exact ⟨hfind, h⟩

end Search

end Codebook
