import Mathlib
import Codebook.Ignore
import Codebook.Proofs.PathText

/-!
# What ignore rules decide

The verdict on a path is that of one rule, the first that is for such a path and matches it
(`judge_eq_true_iff`). Everything about the order of patterns follows from this.

A path is judged by its text as seen from the directory of the ignore file. `split_pathText_below`
gives the parts of that text: the names on the way, with a name that holds a backslash cut there too.
So a rule that is tried on the parts of a path matches whatever lies below a name that its glob
accepts (`Rule.covers_below`).
-/

namespace Codebook

open Text Codebook.Path

/-! ## The rule that decides -/

namespace Ignore

/-- A path of which it is known whether it is a directory is judged by its text. -/
theorem ignored_eq_ok {ps : List String} {base path : Path} {directory answer : Bool} :
    ignored ps base path (.ok directory) = .ok answer ↔
      judge directory (pathText path base) (ps.map Rule.ofPattern) = answer := by
  rw [ignored, verdict_ok, Except.ok.injEq]

/-- The rule is one for such a path, and it matches. -/
def Rule.hits (directory : Bool) (path : String) (r : Rule) : Bool :=
  (!r.directoryOnly || directory) && r.covers path

/-- The first rule that hits decides. -/
theorem judge_eq_find? (directory : Bool) (path : String) (rs : List Rule) :
    judge directory path rs =
      ((rs.find? (Rule.hits directory path)).map (!·.keeps)).getD false := by
  induction rs with
  | nil => rfl
  | cons r rs ih =>
    rw [judge, List.find?_cons, ih]
    cases h : Rule.hits directory path r with
    | true => simp only [Rule.hits] at h; simp [h]
    | false => simp only [Rule.hits] at h; simp [h]

/-- A path is ignored if the first rule that hits it does not keep it. -/
theorem judge_eq_true_iff {directory : Bool} {path : String} {rs : List Rule} :
    judge directory path rs = true ↔
      ∃ r, rs.find? (Rule.hits directory path) = some r ∧ r.keeps = false := by
  rw [judge_eq_find?]
  cases rs.find? (Rule.hits directory path) <;> simp

/-- Where no rule before it keeps anything, a rule that hits a path has it ignored: should one before
it hit the path too, the verdict is the same. -/
theorem judge_of_none_keeps {directory : Bool} {path : String} {r : Rule}
    (hr : r.hits directory path = true) (hk : r.keeps = false) (after : List Rule) :
    ∀ {before : List Rule}, (∀ q ∈ before, q.keeps = false) →
      judge directory path (before ++ r :: after) = true
  | [], _ => by
    refine judge_eq_true_iff.mpr ⟨r, ?_, hk⟩
    rw [List.nil_append, List.find?_cons_of_pos hr]
  | q :: before, hb => by
    cases hq : q.hits directory path with
    | true =>
      refine judge_eq_true_iff.mpr ⟨q, ?_, hb q List.mem_cons_self⟩
      rw [List.cons_append, List.find?_cons_of_pos hq]
    | false =>
      have ih := judge_of_none_keeps hr hk after fun p hp => hb p (List.mem_cons_of_mem q hp)
      rw [judge_eq_find?] at ih ⊢
      rwa [List.cons_append, List.find?_cons_of_neg (by simp [hq])]

end Ignore

/-! ## The text of a path below a directory -/

/-- The parts in front are dropped. -/
theorem Path.dropParts?_append : ∀ ps qs : List String, dropParts? ps (ps ++ qs) = some qs
  | [], qs => rfl
  | p :: ps, qs => by simp [dropParts?, dropParts?_append ps qs]

/-- What is below a path is relative to it. -/
theorem Path.relativeTo?_below (p : Path) (ns : List String) :
    (p.below ns).relativeTo? p = some ⟨.here, ns⟩ := by
  simp [relativeTo?, dropParts?_append]

/-- Cutting at a separator cuts what is before it and what is after it. -/
theorem Text.split_append_cons (sep : Char) (bs : List Char) :
    ∀ as : List Char, split sep (as ++ sep :: bs) = split sep as ++ split sep bs
  | [] => by simp [split]
  | a :: as => by
    rw [List.cons_append, split, split, split_append_cons sep bs as]
    split_ifs with ha
    · rfl
    · rcases hs : split sep as with _ | ⟨p, ps⟩
      · exact absurd hs (split_eq_splitOn sep as ▸ List.splitOn_ne_nil sep as)
      · rfl

/-- A text that does not hold the character is left as it is. -/
theorem Text.replaceChar_eq_self {c : Char} {new cs : List Char} (h : c ∉ cs) :
    replaceChar c new cs = cs := by
  have hsame : ∀ x ∈ cs, (if x == c then new else [x]) = [x] := by
    intro x hx
    have hne : x ≠ c := fun he => h (he ▸ hx)
    simp [hne]
  rw [replaceChar, List.flatMap_congr hsame, List.flatMap_singleton']

namespace Ignore

/-- Parts are joined by slashes, also in place of backslashes. -/
theorem toList_pathText_below (base : Path) {ns : List String} (hne : ns ≠ []) :
    (pathText (base.below ns) base).toList =
      replaceChar '\\' ['/'] (['/'].intercalate (ns.map String.toList)) := by
  obtain ⟨n, ns, rfl⟩ := List.exists_cons_of_ne_nil hne
  simp [pathText, relativeTo?_below, Path.toString, Anchor.text]

/-- They are split at the slashes of all parts. -/
theorem split_replaceChar_intercalate :
    ∀ {ns : List (List Char)}, ns ≠ [] →
      split '/' (replaceChar '\\' ['/'] (['/'].intercalate ns)) =
        ns.flatMap fun n => split '/' (replaceChar '\\' ['/'] n)
  | [n], _ => by simp
  | n :: m :: ns, _ => by
    have ih := split_replaceChar_intercalate (List.cons_ne_nil m ns)
    have happ : replaceChar '\\' ['/'] (['/'].intercalate (n :: m :: ns)) =
        replaceChar '\\' ['/'] n ++
          '/' :: replaceChar '\\' ['/'] (['/'].intercalate (m :: ns)) := by
      simp [replaceChar, List.intercalate_cons_cons, List.flatMap_append]
    rw [happ, split_append_cons, ih]
    simp only [List.flatMap_cons]

/-- The parts by which a path is judged are the names on the way, cut at backslashes. -/
theorem split_pathText_below (base : Path) {ns : List String} (hne : ns ≠ []) :
    split '/' (pathText (base.below ns) base).toList =
      ns.flatMap fun n => split '/' (replaceChar '\\' ['/'] n.toList) := by
  rw [toList_pathText_below base hne, split_replaceChar_intercalate (by simpa using hne),
    List.flatMap_map]

/-- A rule that is tried on parts matches what is below a name that its glob accepts. -/
theorem Rule.covers_below {r : Rule} (ha : r.anywhere = true) (base : Path) {ns : List String}
    {n : String} (hmem : n ∈ ns) (hn : IsName n) (hb : '\\' ∉ n.toList)
    (hg : r.glob.accepts n.toList = true) : r.covers (pathText (base.below ns) base) = true := by
  have hpart : n.toList ∈ split '/' (pathText (base.below ns) base).toList := by
    rw [split_pathText_below base (List.ne_nil_of_mem hmem), List.mem_flatMap]
    refine ⟨n, hmem, ?_⟩
    rw [replaceChar_eq_self hb, split_eq_splitOn, List.splitOn_eq_singleton hn.no_slash]
    exact List.mem_singleton_self _
  rw [Rule.covers, ha, Bool.true_and, Bool.or_eq_true]
  exact .inr (List.any_eq_true.mpr ⟨n.toList, hpart, hg⟩)

end Ignore

end Codebook
