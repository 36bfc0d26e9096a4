import Mathlib
import Codebook.Proofs.IgnoreRules

/-!
# Which pattern has the last word

The patterns of an ignore file are meant to overrule each other from the top down: the last one that
matches a path says whether it is ignored (`lastVerdict`). The verdict of `ignored` is that of the
first one instead.

* `lastVerdict_concat`, `lastVerdict_eq_find?`: what one more pattern does, and from it what a whole
  list comes to.
* `ignored_eq_lastVerdict_iff`: the two verdicts on a path agree exactly if the first and the last
  pattern that match it are both negations or both none. Read from its end, every list is judged as
  it is meant.
* `not_forall_lastVerdict`: a negation below the pattern that it makes an exception to is without
  effect.
-/

namespace Codebook.Ignore

open Text

/-! ## Patterns that match -/

/-- The pattern is a negation: what it matches is to be kept. -/
def isNegation (p : String) : Bool :=
  startsWith ['!'] p.toList

/-- The pattern matches a path of the given text. -/
def matchesPath (directory : Bool) (text p : String) : Bool :=
  (Rule.ofPattern p).hits directory text

/-- An exclamation mark is cut if there is one. -/
theorem cutKeep_fst (cs : List Char) : (cutKeep cs).1 = startsWith ['!'] cs := by
  cases cs with
  | nil => rfl
  | cons c cs =>
    by_cases hc : c = '!'
    · subst hc
      rfl
    · have hne : ('!' == c) = false := by simpa using Ne.symm hc
      simp [cutKeep, hc, startsWith, dropPart?, hne]

/-- Nothing else is cut. -/
theorem cutKeep_of_not_isNegation {p : String} (hp : isNegation p = false) :
    cutKeep p.toList = (false, p.toList) := by
  have hfst := cutKeep_fst p.toList
  rw [show startsWith ['!'] p.toList = false from hp] at hfst
  unfold cutKeep at hfst ⊢
  split at hfst
  · cases hfst
  · rfl

/-- A rule keeps if its pattern is a negation. -/
theorem keeps_ofPattern (p : String) : (Rule.ofPattern p).keeps = isNegation p :=
  cutKeep_fst p.toList

/-- The verdict on a path is that of the first pattern that matches it. -/
theorem judge_ofPattern (directory : Bool) (text : String) (ps : List String) :
    judge directory text (ps.map Rule.ofPattern) =
      ((ps.find? (matchesPath directory text)).map (!isNegation ·)).getD false := by
  have hkeeps : (fun p => !(Rule.ofPattern p).keeps) = (!isNegation ·) := by
    funext p
    rw [keeps_ofPattern]
  rw [judge_eq_find?, List.find?_map, Option.map_map]
  exact congrArg (fun f => Option.getD (Option.map f _) false) hkeeps

/-! ## The last pattern that matches -/

/-- A verdict as it stands after one more pattern. -/
def overrule (directory : Bool) (text : String) (verdict : Bool) (p : String) : Bool :=
  if matchesPath directory text p then !isNegation p else verdict

/-- The verdict on a path if each pattern that matches it overrules those before it. -/
def lastVerdict (directory : Bool) (text : String) (ps : List String) : Bool :=
  ps.foldl (overrule directory text) false

section Verdicts

variable (directory : Bool) (text : String)

/-- The last pattern may overrule those before. -/
theorem lastVerdict_concat (ps : List String) (p : String) :
    lastVerdict directory text (ps ++ [p]) =
      overrule directory text (lastVerdict directory text ps) p := by
  simp [lastVerdict]

/-- The patterns together come to what the last one that matches says. -/
theorem lastVerdict_eq_find? (ps : List String) :
    lastVerdict directory text ps =
      ((ps.reverse.find? (matchesPath directory text)).map (!isNegation ·)).getD false := by
  induction ps using List.reverseRecOn with
  | nil => rfl
  | append_singleton ps p ih =>
    rw [lastVerdict_concat, overrule, ih, List.reverse_concat, List.find?_cons]
    cases matchesPath directory text p with
    | true => simp
    | false => simp

/-- The pattern matches, and none before it in the list does. -/
def IsFirstMatch (ps : List String) (p : String) : Prop :=
  matchesPath directory text p = true ∧
    ∃ before after, ps = before ++ p :: after ∧ ∀ q ∈ before, matchesPath directory text q = false

/-- The pattern matches, and none after it in the list does. -/
def IsLastMatch (ps : List String) (p : String) : Prop :=
  matchesPath directory text p = true ∧
    ∃ before after, ps = before ++ p :: after ∧ ∀ q ∈ after, matchesPath directory text q = false

/-- The first pattern that is found is the first match. -/
theorem find?_eq_some_iff_isFirstMatch {ps : List String} {p : String} :
    ps.find? (matchesPath directory text) = some p ↔ IsFirstMatch directory text ps p := by
  simp [List.find?_eq_some_iff_append, IsFirstMatch]

/-- From the end it is the last match. -/
theorem find?_reverse_eq_some_iff_isLastMatch {ps : List String} {p : String} :
    ps.reverse.find? (matchesPath directory text) = some p ↔ IsLastMatch directory text ps p := by
  rw [find?_eq_some_iff_isFirstMatch]
  unfold IsFirstMatch IsLastMatch
  constructor
  · rintro ⟨hp, before, after, hps, hbefore⟩
    refine ⟨hp, after.reverse, before.reverse, ?_, by simpa using hbefore⟩
    rw [← List.reverse_reverse ps, hps]
    simp
  · rintro ⟨hp, before, after, hps, hafter⟩
    refine ⟨hp, after.reverse, before.reverse, ?_, by simpa using hafter⟩
    rw [hps]
    simp

/-- No pattern matches, or there is a first and a last one that do. -/
theorem isMatch_cases (ps : List String) :
    (∀ p ∈ ps, matchesPath directory text p = false) ∨
      ∃ p q, IsFirstMatch directory text ps p ∧ IsLastMatch directory text ps q := by
  by_cases hnone : ∀ p ∈ ps, matchesPath directory text p = false
  · exact .inl hnone
  · refine .inr ?_
    push Not at hnone
    obtain ⟨x, hx, hmatch⟩ := hnone
    have hmatch : matchesPath directory text x = true := by simpa using hmatch
    have hfirst := List.find?_isSome.mpr ⟨x, hx, hmatch⟩
    have hlast := List.find?_isSome.mpr ⟨x, List.mem_reverse.mpr hx, hmatch⟩
    obtain ⟨p, hp⟩ := Option.isSome_iff_exists.mp hfirst
    obtain ⟨q, hq⟩ := Option.isSome_iff_exists.mp hlast
    exact ⟨p, q, (find?_eq_some_iff_isFirstMatch directory text).mp hp,
      (find?_reverse_eq_some_iff_isLastMatch directory text).mp hq⟩

variable {directory text} {ps : List String} {p : String}

/-- The first match decides. -/
theorem judge_of_isFirstMatch (hp : IsFirstMatch directory text ps p) :
    judge directory text (ps.map Rule.ofPattern) = !isNegation p := by
  rw [judge_ofPattern, (find?_eq_some_iff_isFirstMatch directory text).mpr hp]
  rfl

/-- The last match gives the last verdict. -/
theorem lastVerdict_of_isLastMatch (hp : IsLastMatch directory text ps p) :
    lastVerdict directory text ps = !isNegation p := by
  rw [lastVerdict_eq_find?, (find?_reverse_eq_some_iff_isLastMatch directory text).mpr hp]
  rfl

/-- A path that no pattern matches is not ignored, whichever pattern has the last word. -/
theorem judge_eq_lastVerdict_of_none (h : ∀ p ∈ ps, matchesPath directory text p = false) :
    judge directory text (ps.map Rule.ofPattern) = lastVerdict directory text ps := by
  have hfirst : ps.find? (matchesPath directory text) = none :=
    List.find?_eq_none.mpr fun p hp => by simp [h p hp]
  have hlast : ps.reverse.find? (matchesPath directory text) = none :=
    List.find?_eq_none.mpr fun p hp => by simp [h p (List.mem_reverse.mp hp)]
  rw [judge_ofPattern, lastVerdict_eq_find?, hfirst, hlast]

end Verdicts

/-- **When the first pattern decides as the last one would.** A path of which it is known whether it is
a directory gets the verdict of the first pattern that matches it. This is the verdict of the last one
exactly if both are negations or both are none; and it always is the verdict of the last one in the
list read from its end. -/
theorem ignored_eq_lastVerdict_iff (ps : List String) (base path : Path) (directory : Bool) :
    let text := pathText path base
    (∀ p, IsFirstMatch directory text ps p →
      ignored ps base path (.ok directory) = .ok (!isNegation p)) ∧
    (∀ q, IsLastMatch directory text ps q → lastVerdict directory text ps = !isNegation q) ∧
    (ignored ps base path (.ok directory) = .ok (lastVerdict directory text ps) ↔
      ∀ p q, IsFirstMatch directory text ps p → IsLastMatch directory text ps q →
        isNegation p = isNegation q) ∧
    ignored ps.reverse base path (.ok directory) = .ok (lastVerdict directory text ps) := by
  intro text
  refine ⟨?_, fun q hq => lastVerdict_of_isLastMatch hq, ?_, ?_⟩
  · intro p hp
    exact ignored_eq_ok.mpr (judge_of_isFirstMatch hp)
  · rw [ignored_eq_ok]
    constructor
    · intro hsame p q hp hq
      have hnot : (!isNegation p) = !isNegation q := by
        rw [← judge_of_isFirstMatch hp, ← lastVerdict_of_isLastMatch hq]
        exact hsame
      simpa using hnot
    · intro hagree
      rcases isMatch_cases directory text ps with hnone | ⟨p, q, hp, hq⟩
      · exact judge_eq_lastVerdict_of_none hnone
      · calc judge directory text (ps.map Rule.ofPattern)
            = !isNegation p := judge_of_isFirstMatch hp
          _ = !isNegation q := by rw [hagree p q hp hq]
          _ = lastVerdict directory text ps := (lastVerdict_of_isLastMatch hq).symm
  · rw [ignored_eq_ok, judge_ofPattern, lastVerdict_eq_find?]

/-- **The last pattern that matches does not always decide.** The second pattern makes an exception to
the first, and the path is ignored all the same. -/
theorem not_forall_lastVerdict :
    ¬ ∀ (ps : List String) (base path : Path) (directory : Bool), ps ≠ [] →
      ignored ps base path (.ok directory) =
        .ok (lastVerdict directory (pathText path base) ps) := by
  intro h
  have hsame := h ["*.py", "!a.py"] .current ⟨.here, ["a.py"]⟩ false (by decide)
  exact absurd hsame (by decide +kernel)

end Codebook.Ignore
