import Mathlib
import Codebook.Proofs.Pruning
import Codebook.Proofs.SourceDirectory

/-!
# Directories that a search is asked to skip

A search is asked to leave out names that start with a dot, and directories with excluded names.
Excluded names are skipped on the walk itself, but the walk never looks at the name of the directory
that it starts from. Names with a dot are not looked at on the walk at all: only the names of files
are.

* `noneHidden_iff_covered`: nothing hidden is found exactly if each visible source file under a
  hidden directory is left out for another reason (`LeftOut`): an excluded name on the way, the
  ignore file or the test settings.
* `noneExcluded_iff`: nothing is found under an excluded name, except in one case. By a dot, the
  directory `src` is searched by itself, and then its own name does not count.
* `not_forall_noneHidden`, `not_forall_noneExcluded`: both can fail.
-/

namespace Codebook.Search

open Text Codebook.Path

/-! ## Why a file is left out -/

/-- The name starts with a dot. -/
def Hidden (n : String) : Prop :=
  ".".toList <+: n.toList

instance (n : String) : Decidable (Hidden n) :=
  inferInstanceAs (Decidable (".".toList <+: n.toList))

/-- The listing of a directory leaves out the source file `c₁/…/cₖ/f` for a reason other than its
name. -/
inductive LeftOut (d : Disk) (o : Options) (dir : Path) (st : TestNaming.Settings)
    (ps cs : List String) (f : String) : Prop
  | excluded {c : String} (hc : c ∈ cs) (h : c ∈ o.excluded ∨ c ∈ st.paths.getD [])
  | ignored (hu : o.useIgnoreFile = true)
      (h : Ignore.ignored ps (d.resolve dir) ((d.resolve dir).below (cs ++ [f])) (.ok false) =
        .ok true)
  | test (ht : o.includeTests = false)
      (h : TestNaming.isTest st.patterns ((d.resolve dir).below (cs ++ [f])) = .ok true)

section Reasons

variable {d : Disk} {o : Options} {dir : Path} {st : TestNaming.Settings} {ps cs : List String}
  {f : String}

/-- What is listed is not left out. -/
theorem Belongs.not_leftOut (hb : Belongs d o dir st ps cs f) : ¬ LeftOut d o dir st ps cs f := by
  intro h
  cases h with
  | @excluded c hc h =>
    obtain ⟨hsearch, hsettings⟩ := hb.entered c hc
    exact h.elim hsearch hsettings
  | ignored hu h =>
    rw [hb.unignored hu] at h
    cases h
  | test ht h =>
    rw [hb.untested ht] at h
    cases h

/-- Where files are selected, each of them is judged. -/
theorem keeps_of_select {s : Survey} :
    ∀ {files fs : List Path}, s.select o files = .ok fs → ∀ p ∈ files, ∃ kept, s.keeps o p = .ok kept
  | [], _, _, p, hp => absurd hp List.not_mem_nil
  | g :: files, _, h, p, hp => by
    obtain ⟨kept, hk, h⟩ := Result.bind_eq_ok.mp h
    obtain ⟨rest, hr, -⟩ := Result.bind_eq_ok.mp h
    rcases List.mem_cons.mp hp with rfl | hp
    · exact ⟨kept, hk⟩
    · exact keeps_of_select hr p hp

/-- A file that is judged and not kept is ignored or a test that is not asked for. -/
theorem keeps_eq_ok_false {s : Survey} {file : Path} (h : s.keeps o file = .ok false) :
    Ignore.judge false (Ignore.pathText file s.root) s.rules = true ∨
      o.includeTests = false ∧ TestNaming.isTest s.patterns file = .ok true := by
  unfold Survey.keeps at h
  split_ifs at h with hj ht
  · exact .inl hj
  · cases h
  · right
    refine ⟨by simpa using ht, ?_⟩
    split at h
    · rename_i test htest
      have hneg : (!test) = false := Except.ok.inj h
      rw [htest, show test = true by simpa using hneg]
    · cases h

end Reasons

/-! ## Hidden directories -/

/-- None of the files has, below `root`, a hidden name on the way to it or as its own. -/
def NoneHidden (root : Path) (files : List Path) : Prop :=
  ∀ ns, root.below ns ∈ files → ∀ n ∈ ns, ¬ Hidden n

/-- Each source file under a hidden directory of `dir`, if its own name is not hidden, is left out
for another reason. -/
def Covered (d : Disk) (o : Options) (dir : Path) : Prop :=
  ∃ st ps, TestNaming.settings d dir = .ok st ∧
    (o.useIgnoreFile = true → Ignore.ofDirectory d dir = .ok ps) ∧
    ∀ cs f, (∃ t, d.get (d.resolve dir) = .ok t ∧ t.HasFile (cs ++ [f])) → (∃ c ∈ cs, Hidden c) →
      ".py".toList <:+ f.toList → ¬ Hidden f → LeftOut d o dir st ps cs f

/-- Nothing is hidden in two lists together if nothing is in each of them. -/
theorem noneHidden_append {root : Path} {xs ys : List Path} :
    NoneHidden root (xs ++ ys) ↔ NoneHidden root xs ∧ NoneHidden root ys := by
  simp only [NoneHidden, List.mem_append, or_imp, forall_and]

/-- What is found of a directory below another one: the names that lead there must not be hidden
either. -/
theorem noneHidden_below {root : Path} {ms : List String} {files : List Path}
    (hin : ∀ p ∈ files, ∃ ns, p = (root.below ms).below ns) (hms : ∀ m ∈ ms, ¬ Hidden m) :
    NoneHidden root files ↔ NoneHidden (root.below ms) files := by
  constructor
  · intro h ns hns n hn
    rw [below_below] at hns
    exact h _ hns n (List.mem_append_right ms hn)
  · intro h ns hns n hn
    obtain ⟨ns', he⟩ := hin _ hns
    rw [below_below] at he
    obtain rfl : ns = ms ++ ns' := below_injective _ he
    rcases List.mem_append.mp hn with hn | hn
    · exact hms n hn
    · exact h ns' (by rwa [below_below]) n hn

section Surveyed

variable {d : Disk} (hd : d.WellFormed) {o : Options} {dir : Path} {s : Survey} {fs : List Path}
  (hn : ∀ n ∈ (d.resolve dir).parts, IsName n) (hs : survey d o dir = .ok s)
  (h : s.list o d = .ok fs)

include hd hn hs h

/-- A source file that is there is listed, hidden or left out for a reason. -/
theorem exists_belongs_or_leftOut :
    ∃ st ps, TestNaming.settings d dir = .ok st ∧
      (o.useIgnoreFile = true → Ignore.ofDirectory d dir = .ok ps) ∧
      (∀ cs f, (d.resolve dir).below (cs ++ [f]) ∈ fs ↔ Belongs d o dir st ps cs f) ∧
      ∀ cs f, (∃ t, d.get (d.resolve dir) = .ok t ∧ t.HasFile (cs ++ [f])) →
        ".py".toList <:+ f.toList → (o.skipDotfiles = true → ¬ Hidden f) →
        Belongs d o dir st ps cs f ∨ LeftOut d o dir st ps cs f := by
  obtain ⟨st, ps, hst, hps, hmem, -⟩ := isListing_of_survey hd hn hs h
  obtain ⟨st', ps', hst', hps', hnone, rfl⟩ := survey_eq_ok hs
  obtain rfl : st = st' := Except.ok.inj (hst.symm.trans hst')
  have hlisted := below_mem_iff_belongs hmem
  refine ⟨st, ps, hst, hps, hlisted, fun cs f hfile hsource hvisible => ?_⟩
  by_cases hex : ∃ c ∈ cs, c ∈ o.excluded ∨ c ∈ st.paths.getD []
  · obtain ⟨c, hc, hc'⟩ := hex
    exact .inr (.excluded hc hc')
  · -- the walk meets the file, so that it is judged
    have hcand : (d.resolve dir).below (cs ++ [f]) ∈
        Survey.candidates ⟨d.resolve dir, o.excluded ++ st.paths.getD [],
          ps'.map Ignore.Rule.ofPattern, st.patterns⟩ o d := by
      refine (mem_candidates hd rfl hn _).mpr ⟨cs, f, rfl, hfile, fun c hc hc' => ?_,
        wants_iff.mpr ⟨hsource, hvisible⟩⟩
      exact hex ⟨c, hc, by simpa using hc'⟩
    obtain ⟨kept, hkept⟩ := keeps_of_select h _ hcand
    cases kept with
    | true =>
      left
      exact (hlisted cs f).mp (((select_eq_ok h).2 _).mpr ⟨hcand, hkept⟩)
    | false =>
      right
      rcases keeps_eq_ok_false hkept with hj | ⟨ht, htest⟩
      · cases hu : o.useIgnoreFile with
        | true =>
          obtain rfl : ps = ps' := Except.ok.inj ((hps hu).symm.trans (hps' hu))
          exact .ignored hu (Ignore.ignored_eq_ok.mpr hj)
        | false =>
          -- without an ignore file there are no rules
          rw [hnone hu] at hj
          cases hj
      · exact .test ht htest

/-- The listing of a directory shows nothing hidden exactly if all that is under a hidden directory
is left out for another reason. -/
theorem noneHidden_iff_of_survey (hdots : o.skipDotfiles = true) :
    NoneHidden (d.resolve dir) fs ↔ Covered d o dir := by
  obtain ⟨st, ps, hst, hps, hlisted, hor⟩ := exists_belongs_or_leftOut hd hn hs h
  constructor
  · intro hnone
    refine ⟨st, ps, hst, hps, fun cs f hfile hhidden hsource hvisible => ?_⟩
    refine (hor cs f hfile hsource fun _ => hvisible).resolve_left fun hb => ?_
    obtain ⟨c, hc, hc'⟩ := hhidden
    exact hnone _ ((hlisted cs f).mpr hb) c (List.mem_append_left _ hc) hc'
  · rintro ⟨st', ps', hst', hps', hcov⟩ ns hns n hmem hhidden
    obtain rfl : st = st' := Except.ok.inj (hst.symm.trans hst')
    obtain ⟨_, _, -, -, hall, -⟩ := isListing_of_survey hd hn hs h
    obtain ⟨cs, f, he, -⟩ := (hall _).mp hns
    obtain rfl : ns = cs ++ [f] := below_injective _ he
    have hb := (hlisted cs f).mp hns
    have hb' : Belongs d o dir st ps' cs f := by
      refine ⟨hb.file, hb.entered, hb.source, hb.visible, fun hu => ?_, hb.untested⟩
      obtain rfl : ps = ps' := Except.ok.inj ((hps hu).symm.trans (hps' hu))
      exact hb.unignored hu
    rcases List.mem_append.mp hmem with hmem | hmem
    · exact hb'.not_leftOut
        (hcov cs f hb.file ⟨n, hmem, hhidden⟩ hb.source (hb.visible hdots))
    · rw [List.mem_singleton.mp hmem] at hhidden
      exact hb.visible hdots hhidden

end Surveyed

/-! ## What a search finds -/

/-- A search as listings: of the directory, and before it of the directory for sources where that one
is searched too. -/
theorem find_eq_ok_listings {d : Disk} {o : Options} {directory : String} {fs : List Path}
    (h : find d o directory = .ok fs) :
    ∃ s st, survey d o (ofString directory) = .ok s ∧
      TestNaming.settings d (ofString directory) = .ok st ∧
      if directory = "." ∧ d.isDir ((d.resolve (ofString directory)).below ["src"]) = .ok true then
        ∃ first rest, list d { o with excluded := o.excluded ++ st.paths.getD [] }
            ((d.resolve (ofString directory)).below ["src"]) = .ok first ∧
          s.list o d = .ok rest ∧ fs = first ++ rest
      else s.list o d = .ok fs := by
  obtain ⟨s, hs, hfind⟩ := find_eq_ok h
  obtain ⟨st, _, hst, -, -, rfl⟩ := survey_eq_ok hs
  refine ⟨_, st, hs, hst, ?_⟩
  rwa [show sourceDirectory (d.resolve (ofString directory)) =
    (d.resolve (ofString directory)).below ["src"] from child_eq_below (by decide)] at hfind

/-- A path has one directory and one name. -/
theorem below_concat_inj {root : Path} {cs cs' : List String} {f f' : String}
    (h : root.below (cs ++ [f]) = root.below (cs' ++ [f'])) : cs = cs' ∧ f = f' := by
  obtain ⟨hcs, hf⟩ := List.append_inj' (below_injective _ h) rfl
  exact ⟨hcs, List.singleton_inj.mp hf⟩

/-- What is listed of a directory lies below it, its own name is not hidden if such names are left
out, and no excluded name leads to it. -/
theorem IsListing.exists_below {d : Disk} {o : Options} {dir : Path} {fs : List Path}
    (h : IsListing d o dir fs) :
    ∀ p ∈ fs, ∃ cs f, p = (d.resolve dir).below (cs ++ [f]) ∧
      (o.skipDotfiles = true → ¬ Hidden f) ∧ ∀ c ∈ cs, c ∉ o.excluded := by
  obtain ⟨_, _, -, -, hmem, -⟩ := h
  intro p hp
  obtain ⟨cs, f, rfl, hb⟩ := (hmem p).mp hp
  exact ⟨cs, f, rfl, hb.visible, fun c hc => (hb.entered c hc).1⟩

/-- What is listed of the directory for sources, seen from the directory above it. -/
theorem exists_below_source {d : Disk} (hd : d.WellFormed) {o : Options} {directory : String}
    {st : TestNaming.Settings} {first : List Path}
    (h : list d { o with excluded := o.excluded ++ st.paths.getD [] }
      ((d.resolve (ofString directory)).below ["src"]) = .ok first) :
    ∀ p ∈ first, ∃ cs f, p = (d.resolve (ofString directory)).below ("src" :: cs ++ [f]) ∧
      (o.skipDotfiles = true → ¬ Hidden f) ∧ ∀ c ∈ cs, c ∉ o.excluded := by
  have hn := hd.resolve_ofString directory
  have hlisted := (list_isListing hd (by rw [resolve_source hn]; exact names_source hn) h).exists_below
  rw [resolve_source hn] at hlisted
  intro p hp
  obtain ⟨cs, f, he, hvisible, hnone⟩ := hlisted p hp
  rw [below_below] at he
  exact ⟨cs, f, he, hvisible, fun c hc hin => hnone c hc (List.mem_append_left _ hin)⟩

/-- A file that is found has no hidden name of its own if such names are left out, and an excluded
name leads to it only if that is the directory for sources. -/
theorem names_of_found {d : Disk} (hd : d.WellFormed) {o : Options} {directory : String}
    {fs : List Path} (h : find d o directory = .ok fs) {cs : List String} {f : String}
    (hf : (d.resolve (ofString directory)).below (cs ++ [f]) ∈ fs) :
    (o.skipDotfiles = true → ¬ Hidden f) ∧
      ((∀ c ∈ cs, c ∉ o.excluded) ∨
        directory = "." ∧ ∃ cs', cs = "src" :: cs' ∧ ∀ c ∈ cs', c ∉ o.excluded) := by
  have hlisted : ∀ {gs : List Path}, IsListing d o (ofString directory) gs →
      (d.resolve (ofString directory)).below (cs ++ [f]) ∈ gs →
      (o.skipDotfiles = true → ¬ Hidden f) ∧ ∀ c ∈ cs, c ∉ o.excluded := by
    intro gs hgs hmem
    obtain ⟨cs', f', he, hboth⟩ := hgs.exists_below _ hmem
    obtain ⟨rfl, rfl⟩ := below_concat_inj he
    exact hboth
  have hn := hd.resolve_ofString directory
  obtain ⟨s, st, hs, -, hfind⟩ := find_eq_ok_listings h
  split_ifs at hfind with hdot
  · obtain ⟨first, rest, hfirst, hrest, rfl⟩ := hfind
    rcases List.mem_append.mp hf with hf | hf
    · obtain ⟨cs', f', he, hvisible, hnone⟩ := exists_below_source hd hfirst _ hf
      obtain ⟨rfl, rfl⟩ := below_concat_inj he
      exact ⟨hvisible, .inr ⟨hdot.1, cs', rfl, hnone⟩⟩
    · exact (hlisted (isListing_of_survey hd hn hs hrest) hf).imp_right .inl
  · exact (hlisted (isListing_of_survey hd hn hs hfind) hf).imp_right .inl

/-- **When nothing hidden is found.** A search that is to leave out hidden names finds nothing below
its directory with a hidden name on the way exactly if each visible source file under a hidden
directory is left out for another reason; by a dot this is asked of the directory `src` once more,
with what is said there. The names of the files that are found are never hidden. -/
theorem noneHidden_iff_covered {d : Disk} (hd : d.WellFormed) {o : Options}
    (hdots : o.skipDotfiles = true) {directory : String} {fs : List Path}
    (h : find d o directory = .ok fs) :
    let dir := ofString directory
    let root := d.resolve dir
    let src := root.below ["src"]
    ∃ st, TestNaming.settings d dir = .ok st ∧
      (NoneHidden root fs ↔ Covered d o dir ∧ (directory = "." → d.isDir src = .ok true →
        Covered d { o with excluded := o.excluded ++ st.paths.getD [] } src)) ∧
      ∀ cs f, root.below (cs ++ [f]) ∈ fs → ¬ Hidden f := by
  intro dir root src
  have hn := hd.resolve_ofString directory
  have hown : ∀ cs f, root.below (cs ++ [f]) ∈ fs → ¬ Hidden f :=
    fun cs f hf => (names_of_found hd h hf).1 hdots
  obtain ⟨s, st, hs, hst, hfind⟩ := find_eq_ok_listings h
  refine ⟨st, hst, ?_, hown⟩
  by_cases hdot : directory = "." ∧ d.isDir src = .ok true
  · rw [if_pos hdot] at hfind
    obtain ⟨first, rest, hfirst, hrest, rfl⟩ := hfind
    have hin : ∀ p ∈ first, ∃ ns, p = (root.below ["src"]).below ns := by
      intro p hp
      obtain ⟨cs, f, he, -⟩ := exists_below_source hd hfirst p hp
      exact ⟨cs ++ [f], by rw [below_below]; exact he⟩
    have hnsrc : ∀ n ∈ (d.resolve src).parts, IsName n := resolve_source hn ▸ names_source hn
    obtain ⟨s', hs', hlist⟩ := Result.bind_eq_ok.mp hfirst
    have hsrc := noneHidden_iff_of_survey hd hnsrc hs' hlist hdots
    rw [resolve_source hn] at hsrc
    rw [noneHidden_append, noneHidden_iff_of_survey hd hn hs hrest hdots,
      noneHidden_below hin (by decide), hsrc, and_comm]
    exact and_congr_right fun _ => ⟨fun hcov _ _ => hcov, fun hcov => hcov hdot.1 hdot.2⟩
  · rw [if_neg hdot] at hfind
    rw [noneHidden_iff_of_survey hd hn hs hfind hdots]
    exact ⟨fun hcov => ⟨hcov, fun h₁ h₂ => absurd ⟨h₁, h₂⟩ hdot⟩, fun hcov => hcov.1⟩

/-- A directory with a source file in a hidden directory, one that is a test and one beside them. -/
def hiddenDisk : Disk := .ofTexts ["home"]
  [(["home", "p", ".tools", "run.py"], ""),
   (["home", "p", ".tools", "test_run.py"], ""),
   (["home", "p", "b.py"], "")]

/-- What a search of that directory finds: the test is left out, the other file is not. -/
def hiddenFiles : List Path :=
  ["b.py", ".tools/run.py"].map fun s => ofString ("/home/p/" ++ s)

theorem wellFormed_hiddenDisk : hiddenDisk.WellFormed :=
  Disk.wellFormed_ofTexts (by decide) (by decide)

/-- The files that are found in the sample. -/
theorem find_hiddenDisk : find hiddenDisk .default "p" = .ok hiddenFiles := by
  decide +kernel

/-- The search of that directory with the name of the hidden directory excluded. -/
def hiddenExcluded : Options := ⟨[".tools"], true, false, true⟩

/-- If the hidden directory is excluded by its name, all that is in it is left out for that reason,
and nothing hidden is found. -/
theorem covered_hiddenDisk :
    hiddenDisk.WellFormed ∧ find hiddenDisk hiddenExcluded "p" = .ok [ofString "/home/p/b.py"] ∧
      NoneHidden (ofString "/home/p") [ofString "/home/p/b.py"] ∧
      Covered hiddenDisk hiddenExcluded (ofString "p") := by
  have hfind : find hiddenDisk hiddenExcluded "p" = .ok [ofString "/home/p/b.py"] := by
    decide +kernel
  have hroot : hiddenDisk.resolve (ofString "p") = ofString "/home/p" := rfl
  obtain ⟨st, -, hiff, -⟩ := noneHidden_iff_covered wellFormed_hiddenDisk rfl hfind
  have hnone : NoneHidden (ofString "/home/p") [ofString "/home/p/b.py"] := by
    intro ns hns
    have he : (ofString "/home/p").below ns = (ofString "/home/p").below ["b.py"] :=
      (List.mem_singleton.mp hns).trans rfl
    rw [below_injective _ he]
    decide
  exact ⟨wellFormed_hiddenDisk, hfind, hnone, (hiff.mp (hroot ▸ hnone)).1⟩

/-- **Something hidden can be found** although hidden names are to be left out. -/
theorem not_forall_noneHidden :
    ¬ ∀ (d : Disk) (o : Options) (directory : String) (fs : List Path), d.WellFormed →
      o.skipDotfiles = true → find d o directory = .ok fs →
      NoneHidden (d.resolve (ofString directory)) fs := by
  intro h
  have hnone := h hiddenDisk .default "p" hiddenFiles wellFormed_hiddenDisk rfl find_hiddenDisk
    [".tools", "run.py"] (by decide) ".tools" (by decide)
  exact absurd hnone (by decide)

/-! ## Excluded directories -/

/-- None of the files lies, at any depth, under a directory below `root` with an excluded name. -/
def NoneExcluded (excluded : List String) (root : Path) (files : List Path) : Prop :=
  ∀ cs f, root.below (cs ++ [f]) ∈ files → ∀ c ∈ cs, c ∉ excluded

/-- **When nothing is found under an excluded name.** This is so unless the search is by a dot, the
name `src` is excluded, and the search of the directory `src` by itself, which is made all the same,
lists something. No other excluded name ever leads to a file that is found. -/
theorem noneExcluded_iff {d : Disk} (hd : d.WellFormed) {o : Options} {directory : String}
    {fs : List Path} (h : find d o directory = .ok fs) :
    let dir := ofString directory
    let root := d.resolve dir
    let src := root.below ["src"]
    ∃ st, TestNaming.settings d dir = .ok st ∧
      (NoneExcluded o.excluded root fs ↔
        (directory = "." → d.isDir src = .ok true → "src" ∈ o.excluded →
          list d { o with excluded := o.excluded ++ st.paths.getD [] } src = .ok [])) ∧
      ∀ cs f, root.below (cs ++ [f]) ∈ fs → ∀ c ∈ cs, c ∈ o.excluded →
        directory = "." ∧ c = "src" ∧ ∃ cs', cs = "src" :: cs' ∧ ∀ c' ∈ cs', c' ∉ o.excluded := by
  intro dir root src
  -- the one excluded name that can lead to a file
  have honly : ∀ cs f, root.below (cs ++ [f]) ∈ fs → ∀ c ∈ cs, c ∈ o.excluded →
      directory = "." ∧ c = "src" ∧ ∃ cs', cs = "src" :: cs' ∧ ∀ c' ∈ cs', c' ∉ o.excluded := by
    intro cs f hf c hc hex
    rcases (names_of_found hd h hf).2 with hnone | ⟨hdot, cs', rfl, hnone⟩
    · exact absurd hex (hnone c hc)
    · rcases List.mem_cons.mp hc with rfl | hc
      · exact ⟨hdot, rfl, cs', rfl, hnone⟩
      · exact absurd hex (hnone c hc)
  have hn := hd.resolve_ofString directory
  obtain ⟨s, st, hs, hst, hfind⟩ := find_eq_ok_listings h
  refine ⟨st, hst, ⟨fun hnone hdot hdir hex => ?_, fun hempty cs f hf c hc hex => ?_⟩, honly⟩
  · rw [if_pos ⟨hdot, hdir⟩] at hfind
    obtain ⟨first, rest, hfirst, -, rfl⟩ := hfind
    rcases first with _ | ⟨p, first⟩
    · exact hfirst
    · obtain ⟨cs, f, he, -⟩ := exists_below_source hd hfirst p List.mem_cons_self
      have hp : root.below ("src" :: cs ++ [f]) ∈ p :: first ++ rest := he ▸ List.mem_cons_self
      exact absurd hex (hnone _ f hp "src" List.mem_cons_self)
  · obtain ⟨hdot, rfl, cs', rfl, -⟩ := honly cs f hf c hc hex
    -- the file is not in the listing of the directory itself, so it must be in that of `src`
    have hrest : ∀ {gs : List Path}, s.list o d = .ok gs →
        root.below ("src" :: cs' ++ [f]) ∉ gs := by
      intro gs hgs hmem
      obtain ⟨cs₁, f₁, he, -, hnone⟩ := (isListing_of_survey hd hn hs hgs).exists_below _ hmem
      obtain ⟨rfl, rfl⟩ := below_concat_inj he
      exact hnone "src" List.mem_cons_self hex
    split_ifs at hfind with hsrc
    · obtain ⟨first, rest, hfirst, hlist, rfl⟩ := hfind
      rw [hempty hdot hsrc.2 hex] at hfirst
      rw [← Except.ok.inj hfirst] at hf
      exact hrest hlist hf
    · exact hrest hfind hf

/-- A search that excludes the name of the directory for sources. -/
def withoutSource : Options := ⟨["src"], true, false, true⟩

/-- What that search finds by a dot in a project with one file in `src` and one beside it. -/
def withoutSourceFiles : List Path :=
  ["src/a.py", "b.py"].map fun s => ofString ("/home/" ++ s)

/-- The files that are found without the source directory. -/
theorem find_withoutSource : find layoutDisk withoutSource "." = .ok withoutSourceFiles := by
  decide +kernel

/-- By its own name the same directory is searched once, and nothing in `src` is found. -/
theorem noneExcluded_layoutDisk :
    layoutDisk.WellFormed ∧
      find layoutDisk withoutSource "../home" = .ok [ofString "/home/b.py"] ∧
      NoneExcluded withoutSource.excluded (layoutDisk.resolve (ofString "../home"))
        [ofString "/home/b.py"] := by
  have hfind : find layoutDisk withoutSource "../home" = .ok [ofString "/home/b.py"] := by
    decide +kernel
  obtain ⟨st, -, hiff, -⟩ := noneExcluded_iff wellFormed_layoutDisk hfind
  exact ⟨wellFormed_layoutDisk, hfind, hiff.mpr fun hdot => absurd hdot (by decide)⟩

/-- **A file can be found under an excluded name.** -/
theorem not_forall_noneExcluded :
    ¬ ∀ (d : Disk) (o : Options) (directory : String) (fs : List Path), d.WellFormed →
      find d o directory = .ok fs →
      NoneExcluded o.excluded (d.resolve (ofString directory)) fs := by
  intro h
  have hnone := h layoutDisk withoutSource "." withoutSourceFiles wellFormed_layoutDisk
    find_withoutSource ["src"] "a.py" (by decide) "src" (by decide)
  exact absurd hnone (by decide)

end Codebook.Search
