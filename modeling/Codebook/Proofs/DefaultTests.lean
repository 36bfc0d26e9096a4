import Mathlib
import Codebook.Proofs.TestGlobs

/-!
# What the default test patterns accept

Each default pattern has one star, with a text before and a text after it. It is tried at the start of a
name and asks nothing of what follows, so the text after the star may stand anywhere behind the one
before it. The two have no character in common, so it can be looked for in the whole name
(`exists_prefix_iff`).
-/

namespace Codebook.TestNaming

open Text

/-- The pattern with a star between two texts. -/
def starPattern (s : List Char × List Char) : String :=
  String.ofList (Regex.expressionText .anything (s.1 ++ ['*'] ++ s.2))

/-- The texts around the star of the default patterns. -/
def defaultShapes : List (List Char × List Char) :=
  [("test_".toList, ".py".toList), ([], "_test.py".toList), ([], "_spec.py".toList)]

/-- The default patterns are those of the default shapes. -/
theorem defaultPatterns_eq : defaultPatterns = defaultShapes.map starPattern := by decide

/-- With no character in common, both parts are found one by one. -/
theorem exists_prefix_iff {as bs cs : List Char} (hapart : as ∩ bs = []) (hne : bs ≠ []) :
    (∃ mid, as ++ mid ++ bs <+: cs) ↔ as <+: cs ∧ bs <:+: cs := by
  constructor
  · rintro ⟨mid, rest, rfl⟩
    exact ⟨⟨mid ++ bs ++ rest, by simp⟩, ⟨as ++ mid, rest, rfl⟩⟩
  · rintro ⟨⟨rest, rfl⟩, hin⟩
    obtain ⟨b, bs, rfl⟩ := List.exists_cons_of_ne_nil hne
    have hrest : b :: bs <:+: rest := by
      by_contra hnot
      have hb : b ∉ as := fun hb =>
        List.eq_nil_iff_forall_not_mem.mp hapart b (List.mem_inter_iff.mpr ⟨hb, List.mem_cons_self⟩)
      have hcut := cutAt?_append (startsNowhere_of_not_mem (p := bs) hb rest)
      rw [cutAt?_eq_none_iff.mpr hnot] at hcut
      exact cutAt?_eq_none_iff.mp hcut hin
    obtain ⟨mid, after, rfl⟩ := hrest
    exact ⟨mid, after, by simp⟩

/-- What a default pattern takes, if there is no line feed in the name. -/
theorem test_starPattern {s : List Char × List Char} (hs : s ∈ defaultShapes) {name : String}
    (hline : '\n' ∉ name.toList) :
    Regex.test (starPattern s) name =
      .ok (decide (s.1 <+: name.toList ∧ s.2 <:+: name.toList)) := by
  have hshapes : ∀ s ∈ defaultShapes, ('*' ∉ s.1 ∧ '*' ∉ s.2) ∧ (s.1 ∩ s.2 = [] ∧ s.2 ≠ []) ∧
      Regex.IsWritable (s.1 ++ ['*'] ++ s.2) := by
    decide
  obtain ⟨hstar, hshape, hwritable⟩ := hshapes s hs
  obtain ⟨answer, htest, hiff⟩ := Regex.test_expressionText .anything hwritable name
  rw [starPattern, htest, Except.ok.injEq, Bool.eq_iff_iff, hiff, decide_eq_true_iff,
    ← exists_prefix_iff hshape.1 hshape.2]
  constructor
  · rintro ⟨start, hstart, hfits⟩
    obtain ⟨mid, rfl, -⟩ := (Glob.fits_around_iff (k := 0) hstar.1 hstar.2).mp hfits
    exact ⟨mid, hstart⟩
  · rintro ⟨mid, hstart⟩
    refine ⟨_, hstart, (Glob.fits_around_iff (k := 0) hstar.1 hstar.2).mpr ⟨mid, rfl, ?_⟩⟩
    intro c hc
    refine bne_iff_ne.mpr ?_
    rintro rfl
    exact hline (hstart.subset (by simp [hc]))

/-- The default patterns in any order. -/
theorem isTest_of_perm {ps : List String} (hps : ps.Perm defaultPatterns) {file : Path}
    (hline : '\n' ∉ file.name.toList) :
    isTest (some ps) file = .ok (decide
      (∃ s ∈ defaultShapes, s.1 <+: file.name.toList ∧ s.2 <:+: file.name.toList)) := by
  have hmem : ∀ p, p ∈ ps ↔ ∃ s ∈ defaultShapes, starPattern s = p := by
    intro p
    rw [hps.mem_iff, defaultPatterns_eq, List.mem_map]
  have htests : ∀ p ∈ ps, ∃ b, Regex.test p file.name = .ok b := by
    intro p hp
    obtain ⟨s, hs, rfl⟩ := (hmem p).mp hp
    exact ⟨_, test_starPattern hs hline⟩
  obtain ⟨b, hb, hiff⟩ := anyMatches_eq_ok htests
  rw [isTest, Option.getD_some, hb, Except.ok.injEq, Bool.eq_iff_iff, hiff, decide_eq_true_iff]
  constructor
  · rintro ⟨p, hp, htest⟩
    obtain ⟨s, hs, rfl⟩ := (hmem p).mp hp
    rw [test_starPattern hs hline, Except.ok.injEq, decide_eq_true_iff] at htest
    exact ⟨s, hs, htest⟩
  · rintro ⟨s, hs, htaken⟩
    refine ⟨_, (hmem _).mpr ⟨s, hs, rfl⟩, ?_⟩
    rw [test_starPattern hs hline, decide_eq_true htaken]

/-- **What counts as a test by default.** Without settings, a file whose name has no line feed is a test
exactly if its name starts with `test_` and holds `.py`, or holds `_test.py` or `_spec.py`, wherever they
stand. The order in which the default patterns are tried does not count. -/
theorem isTest_none_iff (file : Path) (hline : '\n' ∉ file.name.toList) :
    ∃ b, isTest none file = .ok b ∧
      (∀ ps, ps.Perm defaultPatterns → isTest (some ps) file = .ok b) ∧
      (b = true ↔ "test_".toList <+: file.name.toList ∧ ".py".toList <:+: file.name.toList ∨
        "_test.py".toList <:+: file.name.toList ∨ "_spec.py".toList <:+: file.name.toList) := by
  refine ⟨_, isTest_of_perm (List.Perm.refl _) hline, fun ps hps => isTest_of_perm hps hline, ?_⟩
  rw [decide_eq_true_iff]
  simp only [defaultShapes, List.exists_mem_cons_iff]
  simp

/-- What stands after `_test.py` does not count. -/
theorem isTest_none_longer : '\n' ∉ "a_test.py.txt".toList ∧
    isTest none ⟨.here, ["a_test.py.txt"]⟩ = .ok true := by
  have hline : '\n' ∉ "a_test.py.txt".toList := by decide
  obtain ⟨b, hb, -, hiff⟩ := isTest_none_iff ⟨.here, ["a_test.py.txt"]⟩ hline
  exact ⟨hline, hb.trans (congrArg _ (hiff.mpr (.inr (.inl (by decide)))))⟩

end Codebook.TestNaming
