import Mathlib
import Codebook.Proofs.IgnoreRules
import Codebook.Proofs.Listing

/-!
# Ignored directories and the files below them

A search compares the patterns of an ignore file with files only; a directory that they ignore is
entered all the same. So whether a search keeps out of ignored directories (`Pruned`) is a matter of
what the patterns say about the files there.

* `not_forall_pruned`: it does not always keep out. A pattern that is for directories only never
  says anything about a file.
* `pruned_iff`: it keeps out exactly if, for each file under an ignored directory that would be
  listed without the ignore file, the first rule that hits the file ignores it. This is the case below
  every name that a pattern without a slash accepts, unless a pattern before it keeps something.
-/

namespace Codebook.Search

open Text Codebook.Path

/-- None of the files lies, at any depth, under a directory below `root` that is ignored. -/
def Pruned (ps : List String) (root : Path) (files : List Path) : Prop :=
  ∀ cs ns, cs ≠ [] → ns ≠ [] → root.below (cs ++ ns) ∈ files →
    Ignore.ignored ps root (root.below cs) (.ok true) = .ok false

/-- A file belongs to a listing if it does without the ignore file and no pattern matches it. -/
theorem belongs_iff {d : Disk} {o : Options} (hu : o.useIgnoreFile = true) {dir : Path}
    {st : TestNaming.Settings} {ps cs : List String} {f : String} :
    Belongs d o dir st ps cs f ↔
      Belongs d { o with useIgnoreFile := false } dir st ps cs f ∧
        Ignore.judge false (Ignore.pathText ((d.resolve dir).below (cs ++ [f])) (d.resolve dir))
          (ps.map Ignore.Rule.ofPattern) = false := by
  constructor
  · intro h
    refine ⟨⟨h.file, h.entered, h.source, h.visible, fun hf => absurd hf (by simp), h.untested⟩, ?_⟩
    exact Ignore.ignored_eq_ok.mp (h.unignored hu)
  · rintro ⟨h, hj⟩
    exact ⟨h.file, h.entered, h.source, h.visible, fun _ => Ignore.ignored_eq_ok.mpr hj, h.untested⟩

section Listed

variable {d : Disk} {o : Options} {dir : Path} {st : TestNaming.Settings} {ps : List String}
  {fs : List Path}

/-- The files of a listing, by the names that lead to them. -/
theorem below_mem_iff_belongs
    (h : ∀ p, p ∈ fs ↔ ∃ cs f, p = (d.resolve dir).below (cs ++ [f]) ∧ Belongs d o dir st ps cs f)
    (cs : List String) (f : String) :
    (d.resolve dir).below (cs ++ [f]) ∈ fs ↔ Belongs d o dir st ps cs f := by
  rw [h]
  constructor
  · rintro ⟨cs', f', he, hb⟩
    obtain ⟨rfl, hf⟩ := List.append_inj' (below_injective _ he) rfl
    rwa [List.singleton_inj.mp hf]
  · intro hb
    exact ⟨cs, f, rfl, hb⟩

/-- A listing keeps out of ignored directories if the ignore file speaks of each file there that is
otherwise listed. -/
theorem pruned_iff_of_listed (hu : o.useIgnoreFile = true)
    (hlisted : ∀ cs f, (d.resolve dir).below (cs ++ [f]) ∈ fs ↔ Belongs d o dir st ps cs f) :
    Pruned ps (d.resolve dir) fs ↔
      ∀ cs ns f, cs ≠ [] →
        Ignore.ignored ps (d.resolve dir) ((d.resolve dir).below cs) (.ok true) = .ok true →
        Belongs d { o with useIgnoreFile := false } dir st ps (cs ++ ns) f →
        ∃ r, (ps.map Ignore.Rule.ofPattern).find? (Ignore.Rule.hits false (Ignore.pathText
          ((d.resolve dir).below (cs ++ ns ++ [f])) (d.resolve dir))) = some r ∧ r.keeps = false := by
  constructor
  · intro hpruned cs ns f hcs hdir hb
    -- were the file not ignored, it would be listed under the ignored directory
    refine Ignore.judge_eq_true_iff.mp (by_contra fun hj => ?_)
    have hin := (hlisted (cs ++ ns) f).mpr ((belongs_iff hu).mpr ⟨hb, by simpa using hj⟩)
    rw [List.append_assoc] at hin
    have hkept := hpruned cs (ns ++ [f]) hcs (by simp) hin
    rw [hdir] at hkept
    simp at hkept
  · intro hfile cs ms hcs hms hin
    obtain ⟨ns, f, rfl⟩ := (List.eq_nil_or_concat' ms).resolve_left hms
    rw [← List.append_assoc] at hin
    obtain ⟨hb, hj⟩ := (belongs_iff hu).mp ((hlisted (cs ++ ns) f).mp hin)
    refine Ignore.ignored_eq_ok.mpr (Bool.eq_false_iff.mpr fun hdir => ?_)
    have hr := Ignore.judge_eq_true_iff.mpr
      (hfile cs ns f hcs (Ignore.ignored_eq_ok.mpr hdir) hb)
    rw [hj] at hr
    simp at hr

/-- No listed file lies below a name that a rule for names accepts, if no rule before it keeps
anything. -/
theorem accepts_eq_false_of_listed (hd : d.WellFormed) (hu : o.useIgnoreFile = true)
    (hlisted : ∀ cs f, (d.resolve dir).below (cs ++ [f]) ∈ fs ↔ Belongs d o dir st ps cs f)
    {before after : List Ignore.Rule} {r : Ignore.Rule}
    (hrules : ps.map Ignore.Rule.ofPattern = before ++ r :: after)
    (hbefore : ∀ q ∈ before, q.keeps = false) (hk : r.keeps = false)
    (hdo : r.directoryOnly = false) (ha : r.anywhere = true) {cs : List String} {f : String}
    (hin : (d.resolve dir).below (cs ++ [f]) ∈ fs) {c : String} (hc : c ∈ cs)
    (hslash : '\\' ∉ c.toList) : r.glob.accepts c.toList = false := by
  obtain ⟨hb, hj⟩ := (belongs_iff hu).mp ((hlisted cs f).mp hin)
  obtain ⟨t, ht, hf⟩ := hb.file
  refine Bool.eq_false_iff.mpr fun hg => ?_
  have hmem : c ∈ cs ++ [f] := List.mem_append_left _ hc
  have hname : IsName c := hf.isName (hd.get ht) c hmem
  have hcov := Ignore.Rule.covers_below ha (d.resolve dir) hmem hname hslash hg
  have hhits : r.hits false (Ignore.pathText ((d.resolve dir).below (cs ++ [f]))
      (d.resolve dir)) = true := by
    simp [Ignore.Rule.hits, hdo, hcov]
  have hr := Ignore.judge_of_none_keeps hhits hk after hbefore
  rw [← hrules, hj] at hr
  simp at hr

end Listed

/-- **When a search keeps out of ignored directories.** It does exactly if each file under an ignored
directory that would be listed without the ignore file is ignored by the first rule that hits it as a
file. Whatever the tree, no file is listed below a name that the glob of a rule accepts, if the rule
is one for names, also of files, and neither it nor a rule before it keeps anything. -/
theorem pruned_iff {d : Disk} (hd : d.WellFormed) {o : Options} (hu : o.useIgnoreFile = true)
    {directory : String} (hdot : directory ≠ ".") {fs : List Path}
    (h : find d o directory = .ok fs) :
    let dir := ofString directory
    let root := d.resolve dir
    ∃ st ps, TestNaming.settings d dir = .ok st ∧ Ignore.ofDirectory d dir = .ok ps ∧
      (Pruned ps root fs ↔
        ∀ cs ns f, cs ≠ [] → Ignore.ignored ps root (root.below cs) (.ok true) = .ok true →
          Belongs d { o with useIgnoreFile := false } dir st ps (cs ++ ns) f →
          ∃ r, (ps.map Ignore.Rule.ofPattern).find? (Ignore.Rule.hits false
            (Ignore.pathText (root.below (cs ++ ns ++ [f])) root)) = some r ∧ r.keeps = false) ∧
      ∀ before r after, ps.map Ignore.Rule.ofPattern = before ++ r :: after →
        (∀ q ∈ before, q.keeps = false) → r.keeps = false → r.directoryOnly = false →
        r.anywhere = true → ∀ cs f, root.below (cs ++ [f]) ∈ fs →
        ∀ c ∈ cs, '\\' ∉ c.toList → r.glob.accepts c.toList = false := by
  intro dir root
  obtain ⟨_, _, hfind⟩ := find_isListing hd h
  rw [if_neg fun hc => hdot hc.1] at hfind
  obtain ⟨st, ps, hst, hps, hmem, -⟩ := hfind
  have hlisted := below_mem_iff_belongs hmem
  refine ⟨st, ps, hst, hps hu, pruned_iff_of_listed hu hlisted, ?_⟩
  intro before r after hrules hbefore hk hdo ha cs f hin c hc hslash
  exact accepts_eq_false_of_listed hd hu hlisted hrules hbefore hk hdo ha hin hc hslash

/-- A directory with a pattern for directories and one for names in its ignore file. -/
def generatedDisk : Disk := .ofTexts ["home"]
  [(["home", "p", ".gitignore"], "gen/\ncache\n"),
   (["home", "p", "b.py"], ""),
   (["home", "p", "cache", "x", "c.py"], ""),
   (["home", "p", "gen", "a.py"], "")]

/-- What a search of that directory finds: nothing below `cache`, but all that is below `gen`. -/
def generatedFiles : List Path :=
  ["b.py", "gen/a.py"].map fun s => ofString ("/home/p/" ++ s)

theorem wellFormed_generatedDisk : generatedDisk.WellFormed :=
  Disk.wellFormed_ofTexts (by decide) (by decide)

/-- The files that are found in the sample. -/
theorem find_generatedDisk : find generatedDisk .default "p" = .ok generatedFiles := by
  decide +kernel

/-- The patterns of the sample. -/
theorem ofDirectory_generatedDisk :
    Ignore.ofDirectory generatedDisk (ofString "p") = .ok ["gen/", "cache"] := by
  decide +kernel

/-- No file of that directory is listed below a directory called `cache`. -/
theorem cache_pruned_generatedDisk :
    generatedDisk.WellFormed ∧ find generatedDisk .default "p" = .ok generatedFiles ∧
      ∀ cs f, (generatedDisk.resolve (ofString "p")).below (cs ++ [f]) ∈ generatedFiles →
        "cache" ∉ cs := by
  refine ⟨wellFormed_generatedDisk, find_generatedDisk, fun cs f h hc => ?_⟩
  obtain ⟨st, ps, -, hps, -, hnames⟩ :=
    pruned_iff wellFormed_generatedDisk rfl (by decide) find_generatedDisk
  obtain rfl : ["gen/", "cache"] = ps := Except.ok.inj (ofDirectory_generatedDisk.symm.trans hps)
  have hacc := hnames [.ofPattern "gen/"] (.ofPattern "cache") [] rfl (by decide) (by decide)
    (by decide) (by decide) cs f h "cache" hc (by decide)
  exact absurd hacc (by decide)

/-- **A search does not always keep out of ignored directories.** -/
theorem not_forall_pruned :
    ¬ ∀ (d : Disk) (o : Options) (directory : String) (fs : List Path) (ps : List String),
      d.WellFormed → o.useIgnoreFile = true → directory ≠ "." → find d o directory = .ok fs →
      Ignore.ofDirectory d (ofString directory) = .ok ps →
      Pruned ps (d.resolve (ofString directory)) fs := by
  intro h
  have hkept := h generatedDisk .default "p" generatedFiles ["gen/", "cache"]
    wellFormed_generatedDisk rfl (by decide) find_generatedDisk ofDirectory_generatedDisk
    ["gen"] ["a.py"] (by decide) (by decide) (by decide +kernel)
  exact absurd hkept (by decide +kernel)

end Codebook.Search
