import Mathlib
import Codebook.Proofs.SourceDirectory

/-!
# Stricter searches

A search can be asked to leave out more: further names of directories, files whose names start with a
dot, tests, or what an ignore file says. `Stricter` compares two searches in all of these at once, and
`Belongs.of_stricter` is why the stricter one lists nothing new. What both list is in the order of a
walk, so that the shorter list is a part of the longer one (`sublist_of_pairwise_before`).

* `keepsCounts_iff_of_stricter`: a stricter search finds a part of what was found before, in the same
  order. What is still found is there as often as before, unless by a dot a file of the directory
  `src` is dropped from one of the two listings that had it and not from the other.
* `not_forall_keepsCounts`: an ignore file drops a file from one listing only.
-/

namespace Codebook.Search

open Text Codebook.Path

/-- The second search leaves out all that the first is asked to leave out. -/
structure Stricter (o o' : Options) : Prop where
  excluded : o.excluded ⊆ o'.excluded
  dotfiles : o.skipDotfiles = true → o'.skipDotfiles = true
  tests : o'.includeTests = true → o.includeTests = true
  ignoreFile : o.useIgnoreFile = true → o'.useIgnoreFile = true

/-- Excluding the same names on top of it keeps one search stricter than another. -/
theorem Stricter.exclude {o o' : Options} (hs : Stricter o o') (names : List String) :
    Stricter { o with excluded := o.excluded ++ names }
      { o' with excluded := o'.excluded ++ names } := by
  refine ⟨fun n hn => ?_, hs.dotfiles, hs.tests, hs.ignoreFile⟩
  rcases List.mem_append.mp hn with hn | hn
  · exact List.mem_append_left names (hs.excluded hn)
  · exact List.mem_append_right o'.excluded hn

/-- What belongs to a stricter listing belongs to the other one, if the patterns that are read are the
same. -/
theorem Belongs.of_stricter {d : Disk} {o o' : Options} (hs : Stricter o o') {dir : Path}
    {st : TestNaming.Settings} {ps ps' : List String} (hps : o.useIgnoreFile = true → ps' = ps)
    {cs : List String} {f : String} (hb : Belongs d o' dir st ps' cs f) :
    Belongs d o dir st ps cs f := by
  refine ⟨hb.file, fun c hc => ?_, hb.source, fun hdot => hb.visible (hs.dotfiles hdot), fun hu => ?_,
    fun ht => ?_⟩
  · obtain ⟨hsearch, hsettings⟩ := hb.entered c hc
    exact ⟨fun hin => hsearch (hs.excluded hin), hsettings⟩
  · have hkept := hb.unignored (hs.ignoreFile hu)
    rwa [hps hu] at hkept
  · refine hb.untested (Bool.eq_false_iff.mpr fun ht' => ?_)
    rw [hs.tests ht'] at ht
    cases ht

/-- Of two lists of paths in the order of a walk, one whose paths are all in the other is a part of it
in the same order. -/
theorem sublist_of_pairwise_before {ps qs : List Path}
    (hp : ps.Pairwise fun p q => Before p.parts q.parts)
    (hq : qs.Pairwise fun p q => Before p.parts q.parts) (h : ps ⊆ qs) : ps.Sublist qs := by
  have hnodup : ps.Nodup := hp.imp fun {p q} hb (he : p = q) => Before.irrefl (he ▸ hb)
  obtain ⟨rs, hperm, hsub⟩ := List.subperm_of_subset hnodup h
  have hr : rs = ps :=
    List.Perm.eq_of_pairwise (fun p q _ _ h₁ h₂ => absurd h₂ h₁.asymm) (hq.sublist hsub) hp hperm
  exact hr ▸ hsub

/-- A stricter listing is a part of the other one. -/
theorem IsListing.sublist_of_stricter {d : Disk} {o o' : Options} (hs : Stricter o o') {dir : Path}
    {fs gs : List Path} (hf : IsListing d o dir fs) (hg : IsListing d o' dir gs) : gs.Sublist fs := by
  obtain ⟨st, ps, hst, hps, hmem, hord⟩ := hf
  obtain ⟨st', ps', hst', hps', hmem', hord'⟩ := hg
  obtain rfl : st = st' := Except.ok.inj (hst.symm.trans hst')
  refine sublist_of_pairwise_before hord' hord fun p hp => ?_
  obtain ⟨cs, f, rfl, hb⟩ := (hmem' p).mp hp
  refine (hmem _).mpr ⟨cs, f, rfl, hb.of_stricter hs fun hu => ?_⟩
  exact Except.ok.inj ((hps' (hs.ignoreFile hu)).symm.trans (hps hu))

/-- What is left if files whose names start with a dot are skipped as well. -/
theorem IsListing.mem_iff_of_dotfiles {d : Disk} {o : Options} {dir : Path} {fs gs : List Path}
    (hf : IsListing d o dir fs) (hg : IsListing d { o with skipDotfiles := true } dir gs) (p : Path) :
    p ∈ gs ↔ p ∈ fs ∧ ¬ ".".toList <+: p.name.toList := by
  obtain ⟨st, ps, hst, hps, hmem, -⟩ := hf
  obtain ⟨st', ps', hst', hps', hmem', -⟩ := hg
  obtain rfl : st = st' := Except.ok.inj (hst.symm.trans hst')
  have hsame : o.useIgnoreFile = true → ps = ps' := fun hu =>
    Except.ok.inj ((hps hu).symm.trans (hps' hu))
  have hname : ∀ cs f, ((d.resolve dir).below (cs ++ [f])).name = f := by simp [name]
  rw [hmem, hmem']
  constructor
  · rintro ⟨cs, f, rfl, hb⟩
    refine ⟨⟨cs, f, rfl, hb.file, hb.entered, hb.source, fun _ => hb.visible rfl, fun hu => ?_,
      hb.untested⟩, ?_⟩
    · rw [hsame hu]
      exact hb.unignored hu
    · rw [hname]
      exact hb.visible rfl
  · rintro ⟨⟨cs, f, rfl, hb⟩, hdot⟩
    rw [hname] at hdot
    refine ⟨cs, f, rfl, hb.file, hb.entered, hb.source, fun _ => hdot, fun hu => ?_, hb.untested⟩
    rw [← hsame hu]
    exact hb.unignored hu

/-- Every path that is still listed is listed as often as before. -/
def KeepsCounts (fs gs : List Path) : Prop :=
  ∀ p ∈ gs, gs.count p = fs.count p

/-- Of files that are listed once, fewer are listed no more often. -/
theorem keepsCounts_of_nodup {fs gs : List Path} (hf : fs.Nodup) (hsub : gs.Sublist fs) :
    KeepsCounts fs gs := by
  intro p hp
  rw [List.count_eq_one_of_mem (hf.sublist hsub) hp, List.count_eq_one_of_mem hf (hsub.subset hp)]

/-- Of two listings one after the other, a path that both had must be dropped from both or from
none. -/
theorem keepsCounts_append_iff {as as' bs bs' : List Path} (ha : as.Nodup) (hb : bs.Nodup)
    (hsa : as'.Sublist as) (hsb : bs'.Sublist bs) :
    KeepsCounts (as ++ bs) (as' ++ bs') ↔ ∀ p ∈ as, p ∈ bs → (p ∈ as' ↔ p ∈ bs') := by
  simp only [KeepsCounts, List.mem_append, List.count_append, ha.count, hb.count,
    (ha.sublist hsa).count, (hb.sublist hsb).count]
  constructor
  · intro h p hpa hpb
    have hcount := h p
    by_cases hpa' : p ∈ as' <;> by_cases hpb' : p ∈ bs' <;> simp_all
  · intro h p hp
    have hboth := h p
    by_cases hpa' : p ∈ as'
    · have hpa := hsa.subset hpa'
      by_cases hpb : p ∈ bs
      · simp [hpa', hpa, hpb, (hboth hpa hpb).mp hpa']
      · have hpb' : p ∉ bs' := fun hin => hpb (hsb.subset hin)
        simp [hpa', hpa, hpb, hpb']
    · have hpb' := hp.resolve_left hpa'
      have hpb := hsb.subset hpb'
      have hpa : p ∉ as := fun hpa => hpa' ((hboth hpa hpb).mpr hpb')
      simp [hpa', hpa, hpb, hpb']

/-- **A stricter search finds a part of what was found before,** in the same order. What is still
found is there as often as before if the directory is listed once. By a dot, with a directory `src`,
this is so exactly if each file that both listings had is still in both or in none of them; skipping
files whose names start with a dot keeps to this. -/
theorem keepsCounts_iff_of_stricter {d : Disk} (hd : d.WellFormed) {o o' : Options}
    (hs : Stricter o o') {directory : String} {fs gs : List Path}
    (hf : find d o directory = .ok fs) (hg : find d o' directory = .ok gs) :
    let dir := ofString directory
    let src := (d.resolve dir).below ["src"]
    ∃ st, TestNaming.settings d dir = .ok st ∧ gs.Sublist fs ∧
      (¬ (directory = "." ∧ d.isDir src = .ok true) → KeepsCounts fs gs) ∧
      (directory = "." ∧ d.isDir src = .ok true →
        ∃ first rest first' rest', fs = first ++ rest ∧ gs = first' ++ rest' ∧
          IsListing d { o with excluded := o.excluded ++ st.paths.getD [] } src first ∧
          IsListing d o dir rest ∧
          IsListing d { o' with excluded := o'.excluded ++ st.paths.getD [] } src first' ∧
          IsListing d o' dir rest' ∧
          (KeepsCounts fs gs ↔ ∀ p ∈ first, p ∈ rest → (p ∈ first' ↔ p ∈ rest'))) ∧
      (o' = { o with skipDotfiles := true } → KeepsCounts fs gs) := by
  intro dir src
  obtain ⟨st, hst, hfind⟩ := find_isListing hd hf
  obtain ⟨st', hst', hfind'⟩ := find_isListing hd hg
  obtain rfl : st = st' := Except.ok.inj (hst.symm.trans hst')
  refine ⟨st, hst, ?_⟩
  by_cases hdot : directory = "." ∧ d.isDir src = .ok true
  · rw [if_pos hdot] at hfind hfind'
    obtain ⟨first, rest, rfl, hfirst, hrest⟩ := hfind
    obtain ⟨first', rest', rfl, hfirst', hrest'⟩ := hfind'
    have hsub := hfirst.sublist_of_stricter (hs.exclude (st.paths.getD [])) hfirst'
    have hsub' := hrest.sublist_of_stricter hs hrest'
    have hiff := keepsCounts_append_iff hfirst.nodup hrest.nodup hsub hsub'
    refine ⟨hsub.append hsub', fun hno => absurd hdot hno, fun _ => ⟨first, rest, first', rest', rfl,
      rfl, hfirst, hrest, hfirst', hrest', hiff⟩, ?_⟩
    rintro rfl
    -- both listings drop the file by its name
    refine hiff.mpr fun p hp hp' => ?_
    rw [hfirst.mem_iff_of_dotfiles hfirst', hrest.mem_iff_of_dotfiles hrest', and_iff_right hp,
      and_iff_right hp']
  · rw [if_neg hdot] at hfind hfind'
    have hsub := hfind.sublist_of_stricter hs hfind'
    have hkeeps := keepsCounts_of_nodup hfind.nodup hsub
    exact ⟨hsub, fun _ => hkeeps, fun h => absurd h hdot, fun _ => hkeeps⟩

/-- The search that leaves out nothing. -/
def lenient : Options := ⟨[], false, true, false⟩

/-- A project with a file in `src` whose name starts with a dot. -/
def dottedDisk : Disk := .ofTexts ["home"]
  [(["home", "b.py"], ""), (["home", "src", ".c.py"], ""), (["home", "src", "a.py"], "")]

/-- What a search for that project by a dot finds if it leaves out nothing. -/
def dottedFiles : List Path :=
  ["src/.c.py", "src/a.py", "b.py", "src/.c.py", "src/a.py"].map fun s => ofString ("/home/" ++ s)

/-- The file whose name starts with a dot is dropped from both listings, and the other file in `src`
is still in both. -/
theorem keepsCounts_dottedDisk :
    dottedDisk.WellFormed ∧ Stricter lenient { lenient with skipDotfiles := true } ∧
      find dottedDisk lenient "." = .ok dottedFiles ∧
      find dottedDisk { lenient with skipDotfiles := true } "." = .ok layoutFiles ∧
      KeepsCounts dottedFiles layoutFiles := by
  have hd : dottedDisk.WellFormed := Disk.wellFormed_ofTexts (by decide) (by decide)
  have hs : Stricter lenient { lenient with skipDotfiles := true } :=
    ⟨fun _ hn => hn, fun _ => rfl, fun _ => rfl, fun h => h⟩
  have hf : find dottedDisk lenient "." = .ok dottedFiles := by decide +kernel
  have hg : find dottedDisk { lenient with skipDotfiles := true } "." = .ok layoutFiles := by
    decide +kernel
  obtain ⟨st, -, -, -, -, hkeeps⟩ := keepsCounts_iff_of_stricter hd hs hf hg
  exact ⟨hd, hs, hf, hg, hkeeps rfl⟩

/-- **A stricter search can find a file less often.** With the ignore file in use, a file in `src` that
it names is found once instead of twice. -/
theorem not_forall_keepsCounts :
    ¬ ∀ (d : Disk) (o : Options) (directory : String) (fs gs : List Path), d.WellFormed →
      find d { o with useIgnoreFile := false } directory = .ok fs →
      find d { o with useIgnoreFile := true } directory = .ok gs → KeepsCounts fs gs := by
  intro h
  have hfind : find guardedDisk { Options.default with useIgnoreFile := false } "." =
      .ok layoutFiles := by
    decide +kernel
  have hkeeps := h guardedDisk .default "." _ _ wellFormed_guardedDisk hfind find_guardedDisk
  exact absurd (hkeeps (ofString "/home/src/a.py") (by decide)) (by decide)

end Codebook.Search
