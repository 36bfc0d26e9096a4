import Mathlib
import Codebook.Proofs.Precedence

/-!
# Which order of patterns counts

The first pattern that matches a path decides, so two neighbours can change places unless they match
the path both and would decide it differently.

* `judge_swap_iff`: what one exchange of neighbours does to the verdict.
* `judge_eq_any`: without negations the verdict is that of any pattern, in whatever order they are.
* `ignored_swap_iff`: both for paths, with the single verdicts, and for files and directories.
-/

namespace Codebook.Ignore

section Exchange

variable {directory : Bool} {text : String}

/-- The verdict of patterns of which none matches is left to those after them. -/
theorem judge_append_of_none {before : List String}
    (h : ∀ r ∈ before, matchesPath directory text r = false) (ps : List String) :
    judge directory text ((before ++ ps).map Rule.ofPattern) =
      judge directory text (ps.map Rule.ofPattern) := by
  have hnone : before.find? (matchesPath directory text) = none :=
    List.find?_eq_none.mpr fun r hr => by simp [h r hr]
  rw [judge_ofPattern, judge_ofPattern, List.find?_append, hnone, Option.none_or]

/-- After a pattern that matches, further patterns are without effect. -/
theorem judge_append_of_exists {before : List String}
    (h : ∃ r ∈ before, matchesPath directory text r = true) (ps : List String) :
    judge directory text ((before ++ ps).map Rule.ofPattern) =
      judge directory text (before.map Rule.ofPattern) := by
  obtain ⟨r, hr⟩ := Option.isSome_iff_exists.mp (List.find?_isSome.mpr h)
  rw [judge_ofPattern, judge_ofPattern, List.find?_append, hr, Option.some_or]

/-- Two neighbours that change places change the verdict only if no pattern before them matches, both
of them do, and one of them is a negation. -/
theorem judge_swap_iff (before : List String) (p q : String) (after : List String) :
    judge directory text ((before ++ q :: p :: after).map Rule.ofPattern) =
        judge directory text ((before ++ p :: q :: after).map Rule.ofPattern) ↔
      isNegation p = isNegation q ∨
        ¬ (matchesPath directory text p = true ∧ matchesPath directory text q = true) ∨
        ∃ r ∈ before, matchesPath directory text r = true := by
  by_cases hbefore : ∃ r ∈ before, matchesPath directory text r = true
  · rw [judge_append_of_exists hbefore, judge_append_of_exists hbefore]
    exact iff_of_true rfl (.inr (.inr hbefore))
  · have hnone : ∀ r ∈ before, matchesPath directory text r = false := by simpa using hbefore
    rw [judge_append_of_none hnone, judge_append_of_none hnone, judge_ofPattern, judge_ofPattern]
    by_cases hboth : matchesPath directory text p = true ∧ matchesPath directory text q = true
    · rw [List.find?_cons_of_pos hboth.1, List.find?_cons_of_pos hboth.2]
      simp [hboth, hbefore, eq_comm (a := isNegation p)]
    · refine iff_of_true ?_ (.inr (.inl hboth))
      -- the one that does not match can as well be left out
      rcases not_and_or.mp hboth with hp | hq
      · simp only [List.find?_cons, Bool.eq_false_iff.mpr hp]
      · simp only [List.find?_cons, Bool.eq_false_iff.mpr hq]

/-- Without negations a path is ignored if any pattern matches it. -/
theorem judge_eq_any {ps : List String} (h : ∀ p ∈ ps, isNegation p = false) :
    judge directory text (ps.map Rule.ofPattern) = ps.any (matchesPath directory text) := by
  rw [judge_ofPattern]
  cases hfirst : ps.find? (matchesPath directory text) with
  | none => simpa using (List.find?_eq_none.mp hfirst)
  | some p =>
    have hmem := List.mem_of_find?_eq_some hfirst
    have hany : ps.any (matchesPath directory text) = true :=
      List.any_eq_true.mpr ⟨p, hmem, List.find?_some hfirst⟩
    simp [h p hmem, hany]

/-- What matches a file matches a directory too. -/
theorem matchesPath_directory_of_file {p : String} (h : matchesPath false text p = true) :
    matchesPath true text p = true := by
  simp only [matchesPath, Rule.hits, Bool.or_false, Bool.or_true, Bool.true_and,
    Bool.and_eq_true] at h ⊢
  exact h.2

end Exchange

/-- **Order counts only between patterns of opposite kind.** Two neighbours that are both negations or
both none change places without effect, and two of opposite kind do so exactly if they do not both
match the path or a pattern before them does. Patterns without negations can stand in any order; they
ignore a path if one of them alone ignores it, and what they ignore as a file they ignore as a
directory. -/
theorem ignored_swap_iff (base path : Path) (directory : Bool) :
    let matched := matchesPath directory (pathText path base)
    let answer := fun ps : List String => ignored ps base path (.ok directory)
    (∀ before p q after,
      answer (before ++ q :: p :: after) = answer (before ++ p :: q :: after) ↔
        isNegation p = isNegation q ∨ ¬ (matched p = true ∧ matched q = true) ∨
          ∃ r ∈ before, matched r = true) ∧
    (∀ ps, (∀ p ∈ ps, isNegation p = false) →
      (∀ qs, qs.Perm ps → answer qs = answer ps) ∧
      answer ps = .ok (ps.any fun p => answer [p] = .ok true) ∧
      (ignored ps base path (.ok false) = .ok true →
        ignored ps base path (.ok true) = .ok true)) := by
  intro matched answer
  have hanswer : ∀ ps, (∀ p ∈ ps, isNegation p = false) → answer ps = .ok (ps.any matched) :=
    fun ps hps => ignored_eq_ok.mpr (judge_eq_any hps)
  refine ⟨fun before p q after => ?_, fun ps hps => ⟨fun qs hperm => ?_, ?_, fun hfile => ?_⟩⟩
  · rw [← judge_swap_iff before p q after]
    simp only [answer, ignored, verdict_ok, Except.ok.injEq]
  · rw [hanswer ps hps, hanswer qs fun q hq => hps q (hperm.mem_iff.mp hq), hperm.any_eq]
  · rw [hanswer ps hps, Except.ok.injEq, Bool.eq_iff_iff, List.any_eq_true, List.any_eq_true]
    refine exists_congr fun p => and_congr_right fun hp => ?_
    simp [hanswer [p] (by simpa using hps p hp)]
  · rw [ignored_eq_ok, judge_eq_any hps, List.any_eq_true] at hfile ⊢
    obtain ⟨p, hp, hmatch⟩ := hfile
    exact ⟨p, hp, matchesPath_directory_of_file hmatch⟩

/-- Two patterns, one of them for directories only, and a file that the other one ignores. -/
theorem ignored_two_patterns :
    (∀ p ∈ ["d/", "a*"], isNegation p = false) ∧
      ignored ["a*", "d/"] .current ⟨.here, ["d", "ab"]⟩ (.ok false) =
        ignored ["d/", "a*"] .current ⟨.here, ["d", "ab"]⟩ (.ok false) ∧
      ignored ["d/", "a*"] .current ⟨.here, ["d", "ab"]⟩ (.ok false) = .ok true ∧
      ignored ["d/", "a*"] .current ⟨.here, ["d", "ab"]⟩ (.ok true) = .ok true := by
  have hps : ∀ p ∈ ["d/", "a*"], isNegation p = false := by decide
  have hfile : ignored ["d/", "a*"] .current ⟨.here, ["d", "ab"]⟩ (.ok false) = .ok true := by
    decide +kernel
  obtain ⟨hperm, -, hdirectory⟩ := (ignored_swap_iff .current ⟨.here, ["d", "ab"]⟩ false).2 _ hps
  exact ⟨hps, hperm _ (.swap "d/" "a*" []), hfile, hdirectory hfile⟩

end Codebook.Ignore
