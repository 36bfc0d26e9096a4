import Mathlib
import Codebook.Proofs.Pruning

/-!
# Test paths of the settings

The test settings of a directory can give paths where its tests are. A search is to leave out what is
under these paths, and nothing else for their sake. What it does is to skip every directory whose name
is one of the paths as they are written.

* `Tree.mem_walk_iff`: the directories that a walk enters are those of the tree to which no skipped
  name leads.
* `testPaths_iff`: a directory is pruned for the sake of the settings exactly if a test path that is a
  single name is among the names that lead to it. So a path of one name prunes directories in other
  places too, and a path of more names prunes nothing. From this follows when nothing is found under a
  test path (`NoneUnder`), and when nothing else is pruned (`PrunesOnlyUnder`).
* `not_forall_noneUnder_or_prunesOnlyUnder`: in one and the same directory neither may hold.
-/

namespace Codebook

open Text Codebook.Path

/-! ## Directories that a walk enters -/

namespace Tree

/-- Following the names leads from the top of the tree to a directory. -/
inductive HasDir : Tree → List String → Prop
  | top {es : List (String × Tree)} : HasDir (.dir es) []
  | inside {es : List (String × Tree)} {n : String} {t : Tree} {ns : List String}
      (h : (n, t) ∈ es) (hd : HasDir t ns) : HasDir (.dir es) (n :: ns)

/-- The directories of a well-formed tree have ordinary names. -/
theorem HasDir.isName {t : Tree} {ns : List String} (h : t.HasDir ns) (hw : t.WellFormed) :
    ∀ n ∈ ns, IsName n := by
  induction h with
  | top => exact fun n hn => absurd hn List.not_mem_nil
  | inside he _ ih =>
    intro n hn
    cases hw with
    | dir _ hnames hbelow =>
      rcases List.mem_cons.mp hn with rfl | hn
      · exact hnames _ he
      · exact ih (hbelow _ he) n hn

/-- A walk enters the directories of the tree to which no skipped name leads. -/
theorem mem_walk_iff {skip : String → Bool} {t : Tree} (hw : t.WellFormed) {top : Path}
    (ha : top.anchor = .root) (hn : ∀ n ∈ top.parts, IsName n) (p : Path) :
    p ∈ (t.walk skip top.toString).map (fun v => ofString v.root) ↔
      ∃ cs, p = top.below cs ∧ t.HasDir cs ∧ ∀ c ∈ cs, skip c = false := by
  induction hw generalizing top with
  | file bytes =>
    constructor
    · intro h
      simp [walk] at h
    · rintro ⟨cs, -, h, -⟩
      cases h
  | @dir es _ names _ ih =>
    -- one level down the same holds below each entry
    have hdown : ∀ e ∈ es, (p ∈ (e.2.walk skip (joinText top.toString e.1)).map
        (fun v => ofString v.root) ↔
          ∃ cs, p = top.below (e.1 :: cs) ∧ e.2.HasDir cs ∧ ∀ c ∈ cs, skip c = false) := by
      intro e he
      have hnames : ∀ n ∈ (top.below [e.1]).parts, IsName n := by
        intro n hmem
        rcases List.mem_append.mp hmem with h | h
        · exact hn n h
        · exact List.mem_singleton.mp h ▸ names e he
      rw [joinText_toString ha hn (names e he), @ih e he (top.below [e.1]) ha hnames]
      simp only [below_below, List.singleton_append]
    rw [walk, List.map_cons, List.mem_cons, ofString_toString ha hn, walkEntries_eq_flatMap,
      List.map_flatMap, List.mem_flatMap]
    constructor
    · rintro (rfl | ⟨e, he, hp⟩)
      · exact ⟨[], (below_nil _).symm, .top, fun c hc => absurd hc List.not_mem_nil⟩
      · cases hs : skip e.1 with
        | true => simp [hs] at hp
        | false =>
          rw [hs, if_neg (by simp)] at hp
          obtain ⟨cs, hcs, hdir, hskip⟩ := (hdown e he).mp hp
          exact ⟨e.1 :: cs, hcs, .inside he hdir, List.forall_mem_cons.mpr ⟨hs, hskip⟩⟩
    · rintro ⟨cs, hcs, hdir, hskip⟩
      cases hdir with
      | top => exact .inl (by rw [hcs, below_nil])
      | inside he hdir =>
        obtain ⟨hs, hskip⟩ := List.forall_mem_cons.mp hskip
        refine .inr ⟨_, he, ?_⟩
        rw [hs, if_neg (by simp)]
        exact (hdown _ he).mpr ⟨_, hcs, hdir, hskip⟩

end Tree

namespace Search

/-- A walk that skips the excluded names enters the directory `root/c₁/…/cₖ`. -/
def Entered (d : Disk) (excluded : List String) (root : Path) (cs : List String) : Prop :=
  root.below cs ∈ (d.walk (excluded.contains ·) root).map fun v => ofString v.root

/-- A directory is entered if it is there and nothing above it is excluded. -/
theorem entered_iff {d : Disk} (hd : d.WellFormed) {excluded : List String} {root : Path}
    (ha : root.anchor = .root) (hn : ∀ n ∈ root.parts, IsName n) {cs : List String} :
    Entered d excluded root cs ↔
      (∃ t, d.get root = .ok t ∧ t.HasDir cs) ∧ ∀ c ∈ cs, c ∉ excluded := by
  unfold Entered Disk.walk
  cases hg : d.get root with
  | error e => simp
  | ok t =>
    simp only [Except.ok.injEq, exists_eq_left']
    rw [Tree.mem_walk_iff (hd.get hg) ha hn]
    constructor
    · rintro ⟨cs', he, hdir, hskip⟩
      obtain rfl : cs = cs' := below_injective _ he
      exact ⟨hdir, fun c hc => by simpa using hskip c hc⟩
    · rintro ⟨hdir, hnone⟩
      exact ⟨cs, rfl, hdir, fun c hc => by simpa using hnone c hc⟩

/-! ## Under the test paths -/

/-- The directory is that of one of the paths, seen from `root`, or lies below it. -/
def UnderPath (root : Path) (paths : List String) (dir : Path) : Prop :=
  ∃ p ∈ paths, ∃ ns, dir = (root.join (ofString p)).below ns

/-- None of the files is in a directory under one of the paths. -/
def NoneUnder (root : Path) (paths : List String) (files : List Path) : Prop :=
  ∀ cs f, root.below (cs ++ [f]) ∈ files → ¬ UnderPath root paths (root.below cs)

/-- The search does not enter the directory, which it would enter if only the names that it is asked
to exclude were skipped. -/
def PrunedBySettings (d : Disk) (o : Options) (dir : Path) (cs : List String) : Prop :=
  ∃ s, survey d o dir = .ok s ∧ Entered d o.excluded s.root cs ∧ ¬ Entered d s.excluded s.root cs

/-- What is pruned for the sake of the settings is under one of the paths. -/
def PrunesOnlyUnder (d : Disk) (o : Options) (dir : Path) (paths : List String) : Prop :=
  ∀ cs, PrunedBySettings d o dir cs → UnderPath (d.resolve dir) paths ((d.resolve dir).below cs)

/-- One of the paths is a single name, and that name is on the way. -/
def NamedOnWay (paths cs : List String) : Prop :=
  ∃ p ∈ paths, IsName p ∧ p ∈ cs

/-- What is under a relative path has the names of the path on the way, from the start. -/
theorem prefix_of_below_join {root q : Path} (hq : q.anchor = .here) {cs ns : List String}
    (h : root.below cs = (root.join q).below ns) : q.parts <+: cs := by
  have hjoin : root.join q = root.below q.parts := by simp [Path.join, hq, below]
  rw [hjoin, below_below] at h
  exact ⟨ns, (below_injective _ h).symm⟩

/-- What is under a path of one name has that name on the way. -/
theorem mem_of_below_join {root : Path} {p : String} (hp : IsName p) {cs ns : List String}
    (h : root.below cs = (root.join (ofString p)).below ns) : p ∈ cs := by
  rw [show root.join (ofString p) = root.below [p] from child_eq_below hp, below_below] at h
  rw [below_injective _ h]
  exact List.mem_cons_self

section Settings

variable {d : Disk} (hd : d.WellFormed) {o : Options} {dir : Path} {st : TestNaming.Settings}
  (hn : ∀ n ∈ (d.resolve dir).parts, IsName n) (hst : TestNaming.settings d dir = .ok st)

include hd hn hst

/-- What is pruned for the sake of the settings are the directories to which a test path of one name
leads. -/
theorem prunedBySettings_iff {s : Survey} (hs : survey d o dir = .ok s) (cs : List String) :
    PrunedBySettings d o dir cs ↔
      Entered d o.excluded (d.resolve dir) cs ∧ NamedOnWay (st.paths.getD []) cs := by
  have hex : ∀ {s' : Survey}, survey d o dir = .ok s' →
      s'.root = d.resolve dir ∧ s'.excluded = o.excluded ++ st.paths.getD [] := by
    intro s' hs'
    obtain ⟨st', _, hst', -, -, rfl⟩ := survey_eq_ok hs'
    obtain rfl : st = st' := Except.ok.inj (hst.symm.trans hst')
    exact ⟨rfl, rfl⟩
  constructor
  · rintro ⟨s', hs', hin, hout⟩
    obtain ⟨hroot, hexcluded⟩ := hex hs'
    rw [hroot] at hin hout
    obtain ⟨⟨t, ht, hdir⟩, hnone⟩ := (entered_iff hd rfl hn).mp hin
    refine ⟨hin, by_contra fun hno => hout ?_⟩
    refine (entered_iff hd rfl hn).mpr ⟨⟨t, ht, hdir⟩, fun c hc hin => ?_⟩
    rw [hexcluded] at hin
    rcases List.mem_append.mp hin with hin | hin
    · exact hnone c hc hin
    · exact hno ⟨c, hin, hdir.isName (hd.get ht) c hc, hc⟩
  · rintro ⟨hin, p, hp, -, hmem⟩
    obtain ⟨hroot, hexcluded⟩ := hex hs
    refine ⟨s, hs, hroot ▸ hin, fun hin' => ?_⟩
    rw [hroot, entered_iff hd rfl hn] at hin'
    refine hin'.2 p hmem ?_
    rw [hexcluded]
    exact List.mem_append_right _ hp

omit hn hst in
/-- Without the test paths, a file belongs to the listing or has a test path of one name on its way. -/
theorem belongs_iff_of_paths {ps cs : List String} {f : String} :
    Belongs d o dir st ps cs f ↔
      Belongs d o dir { st with paths := none } ps cs f ∧ ¬ NamedOnWay (st.paths.getD []) cs := by
  constructor
  · intro hb
    refine ⟨⟨hb.file, fun c hc => ⟨(hb.entered c hc).1, List.not_mem_nil⟩, hb.source, hb.visible,
      hb.unignored, hb.untested⟩, ?_⟩
    rintro ⟨p, hp, -, hmem⟩
    exact (hb.entered p hmem).2 hp
  · rintro ⟨hb, hno⟩
    refine ⟨hb.file, fun c hc => ⟨(hb.entered c hc).1, fun hin => hno ⟨c, hin, ?_, hc⟩⟩, hb.source,
      hb.visible, hb.unignored, hb.untested⟩
    obtain ⟨t, ht, hf⟩ := hb.file
    exact hf.isName (hd.get ht) c (List.mem_append_left _ hc)

end Settings

/-- **What test paths do to a search.** For the sake of the settings it prunes the directories to which
a test path of one name leads, wherever that name is. So nothing is found under a test path exactly if
each file there that would be listed without the test paths has such a name on its way; and nothing
else is pruned exactly if each directory with such a name on its way is under a test path. If all test
paths are single names, nothing is found under them. -/
theorem testPaths_iff {d : Disk} (hd : d.WellFormed) {o : Options} {directory : String}
    (hdot : directory ≠ ".") {st : TestNaming.Settings}
    (hst : TestNaming.settings d (ofString directory) = .ok st) {fs : List Path}
    (h : find d o directory = .ok fs) :
    let dir := ofString directory
    let root := d.resolve dir
    let paths := st.paths.getD []
    ∃ ps, (o.useIgnoreFile = true → Ignore.ofDirectory d dir = .ok ps) ∧
      (∀ cs, PrunedBySettings d o dir cs ↔ Entered d o.excluded root cs ∧ NamedOnWay paths cs) ∧
      (NoneUnder root paths fs ↔
        ∀ cs f, Belongs d o dir { st with paths := none } ps cs f →
          UnderPath root paths (root.below cs) → NamedOnWay paths cs) ∧
      (PrunesOnlyUnder d o dir paths ↔
        ∀ cs, Entered d o.excluded root cs → NamedOnWay paths cs →
          UnderPath root paths (root.below cs)) ∧
      ((∀ p ∈ paths, IsName p) → NoneUnder root paths fs) := by
  intro dir root paths
  have hn := hd.resolve_ofString directory
  obtain ⟨s, hs, hfind⟩ := find_eq_ok h
  rw [if_neg fun hc => hdot hc.1] at hfind
  obtain ⟨st', ps, hst', hps, hmem, -⟩ := isListing_of_survey hd hn hs hfind
  obtain rfl : st = st' := Except.ok.inj (hst.symm.trans hst')
  have hlisted := below_mem_iff_belongs hmem
  have hpruned := prunedBySettings_iff hd hn hst hs
  have hnone : NoneUnder root paths fs ↔
      ∀ cs f, Belongs d o dir { st with paths := none } ps cs f →
        UnderPath root paths (root.below cs) → NamedOnWay paths cs := by
    constructor
    · intro hnone cs f hb hunder
      by_contra hno
      exact hnone cs f ((hlisted cs f).mpr ((belongs_iff_of_paths hd).mpr ⟨hb, hno⟩)) hunder
    · intro hall cs f hin hunder
      obtain ⟨hb, hno⟩ := (belongs_iff_of_paths hd).mp ((hlisted cs f).mp hin)
      exact hno (hall cs f hb hunder)
  refine ⟨ps, hps, hpruned, hnone, ?_, fun hnames => hnone.mpr ?_⟩
  · exact forall_congr' fun cs => by rw [hpruned cs, and_imp]
  · rintro cs f - ⟨p, hp, ns, he⟩
    exact ⟨p, hp, hnames p hp, mem_of_below_join (hnames p hp) he⟩

/-- A directory whose tests are in the directory that its settings name. -/
def unitDisk : Disk := .ofTexts ["home"]
  [(["home", "p", "pytest.ini"], "[pytest]\ntestpaths = u\n"),
   (["home", "p", "b.py"], ""),
   (["home", "p", "u", "c.py"], "")]

/-- The settings of the sample. -/
theorem settings_unitDisk :
    TestNaming.settings unitDisk (ofString "p") = .ok ⟨some [], some ["u"]⟩ := by
  decide +kernel

/-- The directories of that one. -/
theorem entered_unitDisk {cs : List String}
    (h : Entered unitDisk defaultExcluded (ofString "/home/p") cs) : cs = [] ∨ cs = ["u"] := by
  have hwalk : (unitDisk.walk (defaultExcluded.contains ·) (ofString "/home/p")).map
      (fun v => ofString v.root) = [[], ["u"]].map (ofString "/home/p").below := by
    decide +kernel
  rw [Entered, hwalk, List.mem_map] at h
  obtain ⟨cs', hcs', he⟩ := h
  rw [← below_injective _ he]
  simpa using hcs'

/-- Where the one test path is a single name that no other directory has, nothing is found under it
and nothing else is pruned. -/
theorem testPaths_unitDisk :
    unitDisk.WellFormed ∧
      TestNaming.settings unitDisk (ofString "p") = .ok ⟨some [], some ["u"]⟩ ∧
      find unitDisk .default "p" = .ok [ofString "/home/p/b.py"] ∧
      NoneUnder (ofString "/home/p") ["u"] [ofString "/home/p/b.py"] ∧
      PrunesOnlyUnder unitDisk .default (ofString "p") ["u"] := by
  have hd : unitDisk.WellFormed := Disk.wellFormed_ofTexts (by decide) (by decide)
  have hfind : find unitDisk .default "p" = .ok [ofString "/home/p/b.py"] := by decide +kernel
  obtain ⟨ps, -, -, -, honly, hnames⟩ := testPaths_iff hd (by decide) settings_unitDisk hfind
  refine ⟨hd, settings_unitDisk, hfind, hnames (by decide), honly.mpr ?_⟩
  rintro cs hin ⟨p, hp, -, hmem⟩
  rcases entered_unitDisk hin with rfl | rfl
  · exact absurd hmem List.not_mem_nil
  · exact ⟨"u", by decide, [], rfl⟩

/-- A directory whose settings name a path of two names and one name. -/
def scatteredDisk : Disk := .ofTexts ["home"]
  [(["home", "p", "pytest.ini"], "[pytest]\ntestpaths = lib/t u\n"),
   (["home", "p", "app", "u", "c.py"], ""),
   (["home", "p", "b.py"], ""),
   (["home", "p", "lib", "t", "a.py"], "")]

/-- **Test paths are not excluded as paths.** A file under the path of two names is found, and a
directory that only shares its name with the other path is pruned. -/
theorem not_forall_noneUnder_or_prunesOnlyUnder :
    ¬ ∀ (d : Disk) (o : Options) (directory : String) (st : TestNaming.Settings) (fs : List Path),
      d.WellFormed → directory ≠ "." → TestNaming.settings d (ofString directory) = .ok st →
      (∀ p ∈ st.paths.getD [], (ofString p).anchor = .here ∧ ".." ∉ (ofString p).parts) →
      find d o directory = .ok fs →
      NoneUnder (d.resolve (ofString directory)) (st.paths.getD []) fs ∨
        PrunesOnlyUnder d o (ofString directory) (st.paths.getD []) := by
  intro h
  have hd : scatteredDisk.WellFormed := Disk.wellFormed_ofTexts (by decide) (by decide)
  have hst : TestNaming.settings scatteredDisk (ofString "p") =
      .ok ⟨some [], some ["lib/t", "u"]⟩ := by
    decide +kernel
  have hfind : find scatteredDisk .default "p" =
      .ok (["b.py", "lib/t/a.py"].map fun s => ofString ("/home/p/" ++ s)) := by
    decide +kernel
  rcases h scatteredDisk .default "p" _ _ hd (by decide) hst (by decide) hfind with hnone | honly
  · exact hnone ["lib", "t"] "a.py" (by decide) ⟨"lib/t", by decide, [], rfl⟩
  · obtain ⟨s, hs, -⟩ := find_eq_ok hfind
    have hpruned := (prunedBySettings_iff hd (hd.resolve_ofString "p") hst hs ["app", "u"]).mpr
      ⟨by unfold Entered; decide +kernel, "u", by decide, by decide, by decide⟩
    obtain ⟨p, hp, ns, he⟩ := honly _ hpruned
    rcases List.mem_cons.mp hp with rfl | hp
    · exact absurd (prefix_of_below_join rfl he) (by decide)
    · rw [List.mem_singleton.mp hp] at he
      exact absurd (prefix_of_below_join rfl he) (by decide)

end Search

end Codebook
