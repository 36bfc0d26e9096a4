import Mathlib
import Codebook.TestNaming

/-!
# The order in which test patterns are tried

The patterns of test files are a set, and are tried one after the other in whatever order the set is
enumerated. The first pattern that is ill-formed or matches the name settles the outcome, so an
ill-formed pattern and one that matches do not go together.

* `anyMatches_eq_find?`: the outcome is that of the first pattern that settles it.
* `sameOutcome_iff`: exactly when all orders have the same outcome.
* `not_forall_sameOutcome`: with one ill-formed pattern and one that matches they do not.
-/

namespace Codebook.TestNaming

/-! ## The pattern that settles the outcome -/

/-- The outcome is that of the first pattern that is ill-formed or matches. -/
theorem anyMatches_eq_find? (name : String) (ps : List String) :
    anyMatches name ps =
      ((ps.map (Regex.test · name)).find? (· != .ok false)).getD (.ok false) := by
  induction ps with
  | nil => rfl
  | cons p ps ih =>
    rw [anyMatches, List.map_cons, List.find?_cons]
    rcases htest : Regex.test p name with e | _ | _
    · rfl
    · simpa using ih
    · rfl

/-- An ill-formed pattern is an error for every name. -/
theorem test_of_illFormed {p : String} {e : Regex.Error} (h : Regex.parse p = .error e)
    (name : String) : Regex.test p name = .error e := by
  rw [Regex.test, h, Except.map]

/-- A pattern settles the outcome if it is ill-formed or matches. -/
theorem test_ne_false_iff {p name : String} :
    Regex.test p name ≠ .ok false ↔
      (∃ e, Regex.parse p = .error e) ∨ Regex.test p name = .ok true := by
  rw [Regex.test]
  rcases Regex.parse p with e | r
  · simp [Except.map]
  · simp [Except.map]

/-- A pattern that settles the outcome does so if it is tried first. -/
theorem anyMatches_cons_of_ne {name p : String} (h : Regex.test p name ≠ .ok false)
    (ps : List String) : anyMatches name (p :: ps) = Regex.test p name := by
  rw [anyMatches_eq_find?, List.map_cons, List.find?_cons_of_pos (by simpa using h)]
  rfl

/-- The outcome is that of one of the patterns that settle it, or there is no such pattern. -/
theorem anyMatches_cases (name : String) (ps : List String) :
    (∃ p ∈ ps, Regex.test p name ≠ .ok false ∧ anyMatches name ps = Regex.test p name) ∨
      (∀ p ∈ ps, Regex.test p name = .ok false) ∧ anyMatches name ps = .ok false := by
  rw [anyMatches_eq_find?]
  cases hfirst : (ps.map (Regex.test · name)).find? (· != .ok false) with
  | none => exact .inr ⟨by simpa using List.find?_eq_none.mp hfirst, rfl⟩
  | some r =>
    obtain ⟨p, hp, rfl⟩ := List.mem_map.mp (List.mem_of_find?_eq_some hfirst)
    exact .inl ⟨p, hp, by simpa using List.find?_some hfirst, rfl⟩

/-! ## Orders -/

/-- The list has the members of the set, each of them once: an order in which they can be tried. -/
def Enumerates (ps : List String) (s : Finset String) : Prop :=
  ps.Nodup ∧ ps.toFinset = s

/-- An enumeration holds what the set holds. -/
theorem Enumerates.mem_iff {ps : List String} {s : Finset String} (h : Enumerates ps s) {p : String} :
    p ∈ ps ↔ p ∈ s := by
  rw [← h.2, List.mem_toFinset]

/-- Every member can be tried first. -/
theorem exists_enumerates_cons {s : Finset String} {p : String} (hp : p ∈ s) :
    ∃ ps, Enumerates (p :: ps) s := by
  refine ⟨(s.erase p).toList, ?_, ?_⟩
  · exact List.nodup_cons.mpr ⟨by simp, (s.erase p).nodup_toList⟩
  · simp [Finset.insert_erase hp]

/-- An ill-formed pattern and one that matches settle the outcome in turn, whichever is tried
first. -/
theorem exists_orders {s : Finset String} {file : Path} {p q : String} (hp : p ∈ s) (hq : q ∈ s)
    {e : Regex.Error} (he : Regex.parse p = .error e) (hmatch : Regex.test q file.name = .ok true) :
    ∃ ps qs, (Enumerates ps s ∧ isTest (some ps) file = .error e) ∧
      Enumerates qs s ∧ isTest (some qs) file = .ok true := by
  obtain ⟨ps, hps⟩ := exists_enumerates_cons hp
  obtain ⟨qs, hqs⟩ := exists_enumerates_cons hq
  have hfails := test_of_illFormed he file.name
  refine ⟨p :: ps, q :: qs, ⟨hps, ?_⟩, hqs, ?_⟩
  · exact (anyMatches_cons_of_ne (by simp [hfails]) ps).trans hfails
  · exact (anyMatches_cons_of_ne (by simp [hmatch]) qs).trans hmatch

/-- All orders of the patterns have the same outcome for a file. Failures are told apart by their
kind. -/
def SameOutcome {κ : Type} (kind : Regex.Error → κ) (s : Finset String) (file : Path) : Prop :=
  ∀ ps qs, Enumerates ps s → Enumerates qs s →
    (isTest (some ps) file).mapError kind = (isTest (some qs) file).mapError kind

section Orders

variable {κ : Type} (kind : Regex.Error → κ) (s : Finset String) (file : Path)

/-- All orders have the same outcome if the patterns that settle it agree. -/
theorem sameOutcome_iff_agree :
    SameOutcome kind s file ↔
      ∀ p ∈ s, ∀ q ∈ s, Regex.test p file.name ≠ .ok false → Regex.test q file.name ≠ .ok false →
        (Regex.test p file.name).mapError kind = (Regex.test q file.name).mapError kind := by
  constructor
  · intro h p hp q hq hptest hqtest
    obtain ⟨ps, hps⟩ := exists_enumerates_cons hp
    obtain ⟨qs, hqs⟩ := exists_enumerates_cons hq
    have hsame := h _ _ hps hqs
    rwa [isTest, isTest, Option.getD_some, Option.getD_some, anyMatches_cons_of_ne hptest,
      anyMatches_cons_of_ne hqtest] at hsame
  · intro h ps qs hps hqs
    rw [isTest, isTest, Option.getD_some, Option.getD_some]
    rcases anyMatches_cases file.name ps with ⟨p, hp, hptest, hpout⟩ | ⟨hpnone, hpout⟩ <;>
      rcases anyMatches_cases file.name qs with ⟨q, hq, hqtest, hqout⟩ | ⟨hqnone, hqout⟩
    · rw [hpout, hqout]
      exact h p (hps.mem_iff.mp hp) q (hqs.mem_iff.mp hq) hptest hqtest
    · exact absurd (hqnone p (hqs.mem_iff.mpr (hps.mem_iff.mp hp))) hptest
    · exact absurd (hpnone q (hps.mem_iff.mpr (hqs.mem_iff.mp hq))) hqtest
    · rw [hpout, hqout]

/-- **When the order of test patterns does not count.** All orders have the same outcome exactly if no
pattern is ill-formed, or none matches the name and those that are ill-formed fail alike. If one is
ill-formed and another one matches, some order fails and some order finds a test. -/
theorem sameOutcome_iff :
    (SameOutcome kind s file ↔
      (∀ p ∈ s, ∀ e, Regex.parse p ≠ .error e) ∨
      (∀ p ∈ s, Regex.test p file.name ≠ .ok true) ∧
        ∀ p ∈ s, ∀ q ∈ s, ∀ e e', Regex.parse p = .error e → Regex.parse q = .error e' →
          kind e = kind e') ∧
    (∀ p ∈ s, ∀ q ∈ s, ∀ e, Regex.parse p = .error e → Regex.test q file.name = .ok true →
      ∃ ps qs, (Enumerates ps s ∧ isTest (some ps) file = .error e) ∧
        Enumerates qs s ∧ isTest (some qs) file = .ok true) := by
  refine ⟨⟨fun h => ?_, fun h => (sameOutcome_iff_agree kind s file).mpr ?_⟩,
    fun p hp q hq e he hmatch => exists_orders hp hq he hmatch⟩
  · by_cases hformed : ∀ p ∈ s, ∀ e, Regex.parse p ≠ .error e
    · exact .inl hformed
    · push Not at hformed
      obtain ⟨p, hp, e, he⟩ := hformed
      refine .inr ⟨fun q hq hmatch => ?_, fun q hq r hr d d' hd hd' => ?_⟩
      · obtain ⟨ps, qs, ⟨hps, hfails⟩, hqs, htest⟩ := exists_orders hp hq he hmatch
        have hsame := h ps qs hps hqs
        rw [hfails, htest] at hsame
        cases hsame
      · have hfails := test_of_illFormed hd file.name
        have hfails' := test_of_illFormed hd' file.name
        have hsame := (sameOutcome_iff_agree kind s file).mp h q hq r hr (by simp [hfails])
          (by simp [hfails'])
        rw [hfails, hfails'] at hsame
        exact Except.error.inj hsame
  · intro p hp q hq hptest hqtest
    rw [test_ne_false_iff] at hptest hqtest
    rcases h with hformed | ⟨hnone, hkind⟩
    · rw [hptest.resolve_left (not_exists.mpr (hformed p hp)),
        hqtest.resolve_left (not_exists.mpr (hformed q hq))]
    · obtain ⟨e, he⟩ := hptest.resolve_right (hnone p hp)
      obtain ⟨e', he'⟩ := hqtest.resolve_right (hnone q hq)
      rw [test_of_illFormed he, test_of_illFormed he', Except.mapError, Except.mapError,
        hkind p hp q hq e e' he he']

end Orders

/-- An ill-formed pattern beside one that does not match fails in either order. -/
theorem sameOutcome_unmatched :
    (∀ p ∈ ({"[", "b"} : Finset String), Regex.test p "a" ≠ .ok true) ∧
      SameOutcome (fun _ => ()) {"[", "b"} ⟨.here, ["a"]⟩ := by
  have hnone : ∀ p ∈ ({"[", "b"} : Finset String), Regex.test p "a" ≠ .ok true := by
    decide +kernel
  exact ⟨hnone, (sameOutcome_iff _ _ ⟨.here, ["a"]⟩).1.mpr (.inr ⟨hnone, by simp⟩)⟩

/-- **The order of test patterns can count.** An ill-formed pattern that is tried first keeps the other
one from finding a test. -/
theorem not_forall_sameOutcome :
    ¬ ∀ (s : Finset String) (file : Path), SameOutcome (fun _ => ()) s file := by
  intro h
  have hsame := h {"[", "a"} ⟨.here, ["a"]⟩ ["[", "a"] ["a", "["] ⟨by decide, by decide⟩
    ⟨by decide, by decide⟩
  exact absurd hsame (by decide +kernel)

end Codebook.TestNaming
