import Mathlib
import Codebook.Proofs.Precedence

/-!
# When it is asked whether a path is a directory

Whether a path is a directory is looked up at the first pattern that needs it, and looking it up may
fail. `Asked` says when it comes to that: there is a pattern for directories, and no pattern of the
other kind before it decides.

* `verdict_of_asked`, `verdict_of_not_asked`: a failure is the outcome if the question comes up, and
  has no effect if it does not.
* `lookup_ignored_eq_error_iff`: exactly when the failure of a lookup is the outcome, and what the
  outcome is otherwise.
-/

namespace Codebook.Ignore

open Text

/-- The pattern, apart from a `!` at its start, ends with a slash: it is for directories only. -/
def isForDirectories (p : String) : Bool :=
  endsWith ['/'] (cutKeep p.toList).2

/-- A rule is for directories if its pattern is. -/
theorem directoryOnly_ofPattern (p : String) :
    (Rule.ofPattern p).directoryOnly = isForDirectories p := by
  change (cutSlash (cutKeep p.toList).2).1 = endsWith ['/'] (cutKeep p.toList).2
  rw [cutSlash]
  split_ifs with h
  · exact h.symm
  · exact (Bool.eq_false_iff.mpr h).symm

/-- Other patterns do not ask for directories. -/
theorem matchesPath_of_not_isForDirectories {p : String} (hp : isForDirectories p = false)
    (directory : Bool) (text : String) :
    matchesPath directory text p = (Rule.ofPattern p).covers text := by
  simp [matchesPath, Rule.hits, directoryOnly_ofPattern, hp]

/-! ## The question -/

/-- It is asked whether the path is a directory: a pattern is for directories only, and no pattern of
the other kind before it matches. -/
def Asked (text : String) (ps : List String) : Prop :=
  ∃ before p after, ps = before ++ p :: after ∧ isForDirectories p = true ∧
    ∀ q ∈ before, isForDirectories q = false → matchesPath false text q = false

section Question

variable {text : String} {p : String} {ps : List String}

theorem not_asked_nil : ¬ Asked text [] := by
  rintro ⟨before, p, after, he, -⟩
  simp at he

/-- The question comes up at the first pattern, or else at a later one if the first does not match. -/
theorem asked_cons_iff :
    Asked text (p :: ps) ↔
      isForDirectories p = true ∨ matchesPath false text p = false ∧ Asked text ps := by
  constructor
  · rintro ⟨before, q, after, he, hq, hbefore⟩
    cases hp : isForDirectories p with
    | true => exact .inl rfl
    | false =>
      rcases before with _ | ⟨r, before⟩
      · obtain ⟨rfl, -⟩ := List.cons_eq_cons.mp he
        exact absurd hq (by simp [hp])
      · obtain ⟨rfl, rfl⟩ := List.cons_eq_cons.mp he
        rw [List.forall_mem_cons] at hbefore
        exact .inr ⟨hbefore.1 hp, before, q, after, rfl, hq, hbefore.2⟩
  · rintro (hp | ⟨hp, before, q, after, rfl, hq, hbefore⟩)
    · exact ⟨[], p, ps, rfl, hp, fun _ hn => absurd hn List.not_mem_nil⟩
    · exact ⟨p :: before, q, after, rfl, hq, List.forall_mem_cons.mpr ⟨fun _ => hp, hbefore⟩⟩

instance decidableAsked (text : String) : (ps : List String) → Decidable (Asked text ps)
  | [] => .isFalse not_asked_nil
  | _ :: ps =>
    have := decidableAsked text ps
    decidable_of_iff _ asked_cons_iff.symm

/-- Patterns that are not for directories ask nothing. -/
theorem not_asked_of_forall (h : ∀ p ∈ ps, isForDirectories p = false) : ¬ Asked text ps := by
  rintro ⟨before, p, after, rfl, hp, -⟩
  exact absurd (h p (by simp)) (by simp [hp])

/-! ## The verdict with and without an answer -/

/-- A failed lookup is reported by the first pattern that asks. -/
theorem verdict_cons_of_isForDirectories (hp : isForDirectories p = true)
    {answer : Except LookupError Bool} {e : LookupError} (ha : settle answer = .error e) :
    verdict answer text ((p :: ps).map Rule.ofPattern) = .error e := by
  simp [verdict, directoryOnly_ofPattern, hp, ha]

/-- A pattern that is not for directories needs no answer. -/
theorem verdict_cons_of_not_isForDirectories (hp : isForDirectories p = false)
    (answer : Except LookupError Bool) :
    verdict answer text ((p :: ps).map Rule.ofPattern) =
      if matchesPath false text p then .ok (!isNegation p)
      else verdict answer text (ps.map Rule.ofPattern) := by
  simp [verdict, directoryOnly_ofPattern, hp, matchesPath_of_not_isForDirectories hp,
    keeps_ofPattern]

/-- If the question comes up, a failure to answer it is the outcome. -/
theorem verdict_of_asked (h : Asked text ps) {answer : Except LookupError Bool} {e : LookupError}
    (ha : settle answer = .error e) : verdict answer text (ps.map Rule.ofPattern) = .error e := by
  induction ps with
  | nil => exact absurd h not_asked_nil
  | cons p ps ih =>
    cases hp : isForDirectories p with
    | true => exact verdict_cons_of_isForDirectories hp ha
    | false =>
      obtain ⟨hmatch, h⟩ := (asked_cons_iff.mp h).resolve_left (by simp [hp])
      rw [verdict_cons_of_not_isForDirectories hp, hmatch]
      exact ih h

/-- If the question does not come up, the verdict is that on a path that is no directory. -/
theorem verdict_of_not_asked (h : ¬ Asked text ps) (answer : Except LookupError Bool) :
    verdict answer text (ps.map Rule.ofPattern) =
      verdict (.ok false) text (ps.map Rule.ofPattern) := by
  induction ps with
  | nil => rfl
  | cons p ps ih =>
    rw [asked_cons_iff, not_or] at h
    have hp : isForDirectories p = false := Bool.eq_false_iff.mpr h.1
    rw [verdict_cons_of_not_isForDirectories hp, verdict_cons_of_not_isForDirectories hp]
    cases hmatch : matchesPath false text p with
    | true => rfl
    | false => exact ih fun hasked => h.2 ⟨hmatch, hasked⟩

/-- The verdict depends on the answer as far as it is settled. -/
theorem verdict_congr {a b : Except LookupError Bool} (h : settle a = settle b) (rs : List Rule) :
    verdict a text rs = verdict b text rs := by
  induction rs with
  | nil => rfl
  | cons r rs ih => rw [verdict, verdict, h, ih]

end Question

/-! ## Lookups that fail -/

section Failure

variable {l : Lookup} {path : Path} {e : LookupError}

/-- A failure is one of the two that count as "no directory", or it remains one. -/
theorem settle_error_cases (e : LookupError) :
    ((∀ m, e ≠ .unsupported m) ∧ ∀ m, e ≠ .invalid m) ∧ settle (.error e) = .error e ∨
      ¬ ((∀ m, e ≠ .unsupported m) ∧ ∀ m, e ≠ .invalid m) ∧ settle (.error e) = .ok false := by
  cases e with
  | unsupported m => exact .inr ⟨fun h => h.1 m rfl, rfl⟩
  | invalid m => exact .inr ⟨fun h => h.2 m rfl, rfl⟩
  | system m => exact .inl ⟨by simp, rfl⟩

/-- A known answer needs no lookup. -/
theorem lookup_ignored_of_known (ps : List String) (base : Path) (answer : Bool) :
    l.ignored ps base path (some answer) =
      .ok (judge answer (pathText path base) (ps.map Rule.ofPattern)) :=
  verdict_ok answer _ _

variable (he : l.exists? path = .error e)

include he

/-- A failed lookup leaves the verdict to the patterns. -/
theorem lookup_ignored_of_error (ps : List String) (base : Path) :
    l.ignored ps base path none =
      verdict (.error e) (pathText path base) (ps.map Rule.ofPattern) := by
  rw [Lookup.ignored, Lookup.directory, he, ignored]

/-- A path of which nothing is known is judged as no directory, if the failure counts as that or the
question does not come up. -/
theorem lookup_ignored_of_unasked {ps : List String} {base : Path}
    (h : ¬ (((∀ m, e ≠ .unsupported m) ∧ ∀ m, e ≠ .invalid m) ∧ Asked (pathText path base) ps)) :
    l.ignored ps base path none = l.ignored ps base path (some false) := by
  rw [lookup_ignored_of_error he, lookup_ignored_of_known, ← verdict_ok]
  rcases settle_error_cases e with ⟨hkind, -⟩ | ⟨-, hsettle⟩
  · exact verdict_of_not_asked (fun hasked => h ⟨hkind, hasked⟩) _
  · exact verdict_congr hsettle _

/-- **When the failure of a lookup is the outcome.** Suppose that it cannot be found out whether there
is anything at a path. The failure is the outcome exactly if it is not known whether the path is a
directory, the failure is none of the two that count as "no directory", and there is a pattern for
directories with no matching pattern of the other kind before it. In every other case there is a
verdict, and where nothing is known it is that on a path that is no directory. -/
theorem lookup_ignored_eq_error_iff (ps : List String) (base : Path) (known : Option Bool) :
    let escapes := known = none ∧ ((∀ m, e ≠ .unsupported m) ∧ ∀ m, e ≠ .invalid m) ∧
      Asked (pathText path base) ps
    (l.ignored ps base path known = .error e ↔ escapes) ∧
    (¬ escapes → ∃ answer, l.ignored ps base path known = .ok answer ∧
      (known = none → l.ignored ps base path (some false) = .ok answer)) := by
  intro escapes
  have hanswer : ¬ escapes → ∃ answer, l.ignored ps base path known = .ok answer ∧
      (known = none → l.ignored ps base path (some false) = .ok answer) := by
    intro h
    cases known with
    | some b => exact ⟨_, lookup_ignored_of_known ps base b, fun hn => absurd hn (by simp)⟩
    | none =>
      rw [lookup_ignored_of_unasked he fun h' => h ⟨rfl, h'⟩, lookup_ignored_of_known]
      exact ⟨_, rfl, fun _ => rfl⟩
  refine ⟨⟨fun herror => ?_, ?_⟩, hanswer⟩
  · by_contra h
    obtain ⟨answer, hok, -⟩ := hanswer h
    rw [herror] at hok
    cases hok
  · rintro ⟨rfl, hkind, hasked⟩
    rw [lookup_ignored_of_error he]
    refine verdict_of_asked hasked ?_
    exact ((settle_error_cases e).resolve_right fun h => h.1 hkind).2

end Failure

/-- A lookup that is always refused. -/
def refusing (e : LookupError) : Lookup := ⟨fun _ => .error e, fun _ => .error e⟩

/-- Before a pattern for directories, a pattern that matches keeps the failure from being the
outcome, and one that does not match lets it through. -/
theorem lookup_ignored_refusing :
    (refusing (.system "")).exists? ⟨.here, ["a"]⟩ = .error (.system "") ∧
      (refusing (.system "")).ignored ["a", "d/"] .current ⟨.here, ["a"]⟩ none ≠
        .error (.system "") ∧
      (refusing (.system "")).ignored ["!b", "d/"] .current ⟨.here, ["a"]⟩ none =
        .error (.system "") := by
  have he : (refusing (.system "")).exists? ⟨.here, ["a"]⟩ = .error (.system "") := rfl
  refine ⟨he, fun h => ?_, ?_⟩
  · obtain ⟨-, -, hasked⟩ := (lookup_ignored_eq_error_iff he ["a", "d/"] .current none).1.mp h
    exact absurd hasked (by decide +kernel)
  · refine (lookup_ignored_eq_error_iff he ["!b", "d/"] .current none).1.mpr ⟨rfl, by simp, ?_⟩
    decide +kernel

end Codebook.Ignore
