import Mathlib
import Codebook.Proofs.DirectoryLookups
import Codebook.Proofs.PatternDepth

/-!
# Patterns without wildcards

A pattern without wildcards stands for itself: without a slash it is the name of a part, and with one
it is the whole path, which a slash at its start does not change (`NamesPath`). This is so for names
with any other characters, at any depth, and whether or not the path is a directory
(`ignored_literal_eq`).
-/

namespace Codebook.Ignore

open Text Codebook.Path

/-- A pattern without wildcards that is no negation and not for directories only. -/
structure IsLiteralPattern (p : String) : Prop where
  no_star : '*' ∉ p.toList
  no_one : '?' ∉ p.toList
  no_set : '[' ∉ p.toList
  positive : isNegation p = false
  no_end : endsWith ['/'] p.toList = false

/-- The pattern is the name of a part, a slash and the path, or the path, depending on where it has
slashes. -/
def NamesPath (p : String) (ns : List String) : Prop :=
  '/' ∉ p.toList ∧ p ∈ ns ∨
    p = "/" ++ "/".intercalate ns ∨
    '/' ∈ p.toList ∧ (startsWith ['/'] p.toList = false ∧ startsWith "**/".toList p.toList = false) ∧
      p = "/".intercalate ns

instance (p : String) (ns : List String) : Decidable (NamesPath p ns) :=
  inferInstanceAs (Decidable (_ ∨ _ ∨ _))

/-- Joined names, as characters. -/
theorem eq_intercalate_iff {p : String} {ns : List String} :
    p = "/".intercalate ns ↔ p.toList = ['/'].intercalate (ns.map String.toList) := by
  rw [← String.toList_inj, String.toList_intercalate]
  rfl

/-- Joined names after a slash, as characters. -/
theorem eq_slash_append_iff {p : String} {ns : List String} :
    p = "/" ++ "/".intercalate ns ↔ p.toList = '/' :: ['/'].intercalate (ns.map String.toList) := by
  rw [← String.toList_inj, String.toList_append, String.toList_intercalate]
  rfl

/-- A text is among others when its characters are. -/
theorem mem_map_toList {p : String} {ns : List String} : p.toList ∈ ns.map String.toList ↔ p ∈ ns :=
  List.mem_map_of_injective fun _ _ => String.toList_inj.mp

/-- A text starts with no character that it lacks. -/
theorem startsWith_eq_false_of_not_mem {c : Char} {cs : List Char} (h : c ∉ cs) (p : List Char) :
    startsWith (c :: p) cs = false := by
  rw [Bool.eq_false_iff]
  intro hstart
  exact h ((startsWith_iff.mp hstart).subset List.mem_cons_self)

/-! ## What is compared -/

/-- A text without stars or a slash at its start is compared as it is. -/
theorem scope_of_no_star {cs : List Char} (hstar : '*' ∉ cs) (hroot : startsWith ['/'] cs = false) :
    scope cs = (!cs.contains '/', cs) := by
  unfold scope
  split
  · exact absurd hroot (by simp [startsWith, dropPart?])
  · exact absurd hstar (by simp)
  · rfl

section Literal

variable {p : String} (hp : IsLiteralPattern p) {ns : List String}

include hp

/-- A literal pattern accepts itself only. -/
theorem IsLiteralPattern.accepts_iff {cs : List Char} :
    (Glob.parseFrom 0 p.toList).accepts cs = true ↔ cs = p.toList :=
  Glob.accepts_literal_iff hp.no_star hp.no_one hp.no_set

/-- It is never asked whether the path is a directory. -/
theorem IsLiteralPattern.not_asked (text : String) : ¬ Asked text [p] := by
  refine not_asked_of_forall fun q hq => ?_
  obtain rfl := List.mem_singleton.mp hq
  rw [isForDirectories, cutKeep_of_not_isNegation hp.positive]
  exact hp.no_end

/-- Such a pattern is compared with the whole path, and with its parts unless it has a slash. -/
theorem IsLiteralPattern.ignored_file_iff (base path : Path) :
    ignored [p] base path (.ok false) = .ok true ↔
      p.toList = '/' :: (pathText path base).toList ∨
        startsWith ['/'] p.toList = false ∧
          (p.toList = (pathText path base).toList ∨
            '/' ∉ p.toList ∧ p.toList ∈ split '/' (pathText path base).toList) := by
  rw [Ignore.ignored_file_iff hp.positive, hp.no_end]
  cases hroot : startsWith ['/'] p.toList with
  | true =>
    obtain ⟨cs, hcs⟩ := startsWith_iff.mp hroot
    have hcs : p.toList = '/' :: cs := hcs.symm
    have hmem : ∀ c ∈ cs, c ∈ p.toList := fun c hc => hcs ▸ List.mem_cons_of_mem _ hc
    have haccepts := @Glob.accepts_literal_iff cs (pathText path base).toList
      (fun h => hp.no_star (hmem _ h)) (fun h => hp.no_one (hmem _ h))
      (fun h => hp.no_set (hmem _ h))
    simp [hcs, scope, haccepts, eq_comm (a := cs)]
  | false =>
    have hslash : p.toList ≠ '/' :: (pathText path base).toList := by
      intro h
      exact absurd hroot (by simp [h, startsWith, dropPart?])
    rw [scope_of_no_star hp.no_star hroot]
    simp [hp.accepts_iff, hslash, eq_comm (a := p.toList)]

variable (hne : ns ≠ []) (hns : ∀ n ∈ ns, '/' ∉ n.toList ∧ '\\' ∉ n.toList) (base : Path)

include hne hns

/-- A file is ignored if the pattern names its path. -/
theorem IsLiteralPattern.ignored_file_iff_namesPath :
    ignored [p] base (base.below ns) (.ok false) = .ok true ↔ NamesPath p ns := by
  have hsplit := split_joined hne fun n hn => (hns n hn).1
  rw [hp.ignored_file_iff, toList_pathText_joined base hne fun n hn => (hns n hn).2, hsplit,
    mem_map_toList, NamesPath, eq_intercalate_iff, eq_slash_append_iff]
  by_cases hslash : '/' ∈ p.toList
  · have hstars := startsWith_eq_false_of_not_mem hp.no_star ['*', '/']
    simp only [hslash, not_true_eq_false, false_and, or_false, false_or, true_and, and_assoc]
    rw [show startsWith "**/".toList p.toList = false from hstars, eq_self, true_and]
  · -- the whole path is a name without slashes only if it is the only part
    have hwhole : p.toList = ['/'].intercalate (ns.map String.toList) → p ∈ ns := by
      intro h
      rw [← mem_map_toList, ← hsplit, ← h, split_eq_splitOn, List.splitOn_eq_singleton hslash]
      exact List.mem_singleton_self _
    have hroot : p.toList ≠ '/' :: ['/'].intercalate (ns.map String.toList) := by
      intro h
      exact hslash (h ▸ List.mem_cons_self)
    simp only [hroot, hslash, startsWith_eq_false_of_not_mem hslash, not_false_eq_true, true_and,
      false_and, or_false, false_or]
    exact or_iff_right_of_imp hwhole

/-- **A pattern without wildcards means what it says.** It ignores a path below its directory exactly
if it has no slash and is the name of a part, or is a slash and the path, or has a slash elsewhere and
is the path; and so it does whatever is known or found out about the path being a directory. -/
theorem ignored_literal_eq (directory : Except LookupError Bool) :
    ignored [p] base (base.below ns) directory = .ok (decide (NamesPath p ns)) := by
  have hfile : ignored [p] base (base.below ns) directory =
      ignored [p] base (base.below ns) (.ok false) :=
    verdict_of_not_asked (hp.not_asked _) directory
  rw [hfile, ignored_eq_ok, Bool.eq_iff_iff, decide_eq_true_iff, ← ignored_eq_ok]
  exact hp.ignored_file_iff_namesPath hne hns base

end Literal

/-- A name with signs that have a meaning in expressions is found below a directory, and the same name
after a slash is not, though the path cannot be looked up. -/
theorem ignored_literal_signs :
    (IsLiteralPattern "a.(+$" ∧ IsLiteralPattern "/a.(+$") ∧
      (∀ n ∈ ["d", "a.(+$"], '/' ∉ n.toList ∧ '\\' ∉ n.toList) ∧
      ignored ["a.(+$"] .current (Path.current.below ["d", "a.(+$"]) (.error (.system "")) =
        .ok true ∧
      ignored ["/a.(+$"] .current (Path.current.below ["d", "a.(+$"]) (.error (.system "")) =
        .ok false := by
  have hname : IsLiteralPattern "a.(+$" :=
    ⟨by decide, by decide, by decide, by decide, by decide⟩
  have hroot : IsLiteralPattern "/a.(+$" :=
    ⟨by decide, by decide, by decide, by decide, by decide⟩
  have hns : ∀ n ∈ ["d", "a.(+$"], '/' ∉ n.toList ∧ '\\' ∉ n.toList := by decide
  refine ⟨⟨hname, hroot⟩, hns, ?_, ?_⟩
  · rw [ignored_literal_eq hname (by simp) hns]
    decide +kernel
  · rw [ignored_literal_eq hroot (by simp) hns]
    decide +kernel

end Codebook.Ignore
