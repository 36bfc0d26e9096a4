import Mathlib
import Codebook.Proofs.GlobParts
import Codebook.Proofs.Precedence
import Codebook.Proofs.TextParts

/-!
# Patterns and the depth of paths

A pattern with a slash is meant to be matched part by part: a path that it ignores has as many parts
as the pattern, and each part of the pattern matches the part of the path at the same place. A pattern
that starts with two stars and a slash is meant for paths of any depth. Both are compared with the
path as one text, in which a star can take slashes; the second kind is also compared with the single
parts of the path.

* `matchedByParts_iff`: a path that is ignored has at least as many parts as the pattern, and is
  matched part by part exactly if it has no more. A pattern with a star that ignores anything also
  ignores a path that has more parts.
* `ignored_anyDirectory_iff`: a pattern for a path in any directory finds it at the top or if it is a
  single name.
* `not_forall_matchedByParts`, `not_forall_ignored_anyDirectory`: both can fail.
-/

namespace Codebook.Ignore

open Text Codebook.Path

/-! ## Single patterns -/

/-- A pattern that is no negation ignores a file if it is not for directories only and its glob
matches the path, or a part of it where that counts. -/
theorem ignored_file_iff {p : String} (hp : isNegation p = false) (base path : Path) :
    ignored [p] base path (.ok false) = .ok true ↔
      endsWith ['/'] p.toList = false ∧
        ((Glob.parseFrom 0 (scope p.toList).2).accepts (pathText path base).toList = true ∨
          (scope p.toList).1 = true ∧ ∃ part ∈ split '/' (pathText path base).toList,
            (Glob.parseFrom 0 (scope p.toList).2).accepts part = true) := by
  have hkeep := cutKeep_of_not_isNegation hp
  have hverdict : judge false (pathText path base) ([p].map Rule.ofPattern) =
      matchesPath false (pathText path base) p := by
    rw [judge_ofPattern]
    cases hm : matchesPath false (pathText path base) p <;> simp [hm, hp]
  rw [ignored_eq_ok, hverdict, matchesPath, Rule.hits]
  cases hend : endsWith ['/'] p.toList with
  | true => simp [Rule.ofPattern, hkeep, cutSlash, hend]
  | false => simp [Rule.ofPattern, hkeep, cutSlash, hend, Rule.covers]

/-! ## Names joined by slashes -/

section Joined

variable {ts : List (List Char)} {c : Char}

/-- Joined parts hold what each of them holds. -/
theorem mem_intercalate_of_mem {t : List Char} (ht : t ∈ ts) (hc : c ∈ t) :
    c ∈ ['/'].intercalate ts := by
  induction ts with
  | nil => exact absurd ht List.not_mem_nil
  | cons u ts ih =>
    cases ts with
    | nil => simpa using List.mem_singleton.mp ht ▸ hc
    | cons u' ts =>
      rw [List.intercalate_cons_cons, List.mem_append, List.mem_append]
      rcases List.mem_cons.mp ht with rfl | ht
      · exact .inl (.inl hc)
      · exact .inr (ih ht)

/-- A character that no name has is not in the names joined by slashes. -/
theorem not_mem_joined {ns : List String} (hc : c ≠ '/') (h : ∀ n ∈ ns, c ∉ n.toList) :
    c ∉ ['/'].intercalate (ns.map String.toList) := by
  intro hmem
  obtain ⟨t, ht, hct⟩ := (eq_or_exists_of_mem_intercalate hmem).resolve_left hc
  obtain ⟨n, hn, rfl⟩ := List.mem_map.mp ht
  exact h n hn hct

/-- Cut at slashes, joined names come apart again. -/
theorem split_joined {ns : List String} (hne : ns ≠ []) (h : ∀ n ∈ ns, '/' ∉ n.toList) :
    split '/' (['/'].intercalate (ns.map String.toList)) = ns.map String.toList := by
  rw [split_eq_splitOn]
  exact List.splitOn_intercalate '/' (by simpa using h) (by simpa using hne)

end Joined

/-- Names without backslashes, joined by slashes, are the text by which a path is judged. -/
theorem toList_pathText_joined (base : Path) {ns : List String} (hne : ns ≠ [])
    (hns : ∀ n ∈ ns, '\\' ∉ n.toList) :
    (pathText (base.below ns) base).toList = ['/'].intercalate (ns.map String.toList) := by
  rw [toList_pathText_below base hne]
  exact replaceChar_eq_self (not_mem_joined (by decide) hns)

/-- A name without a backslash, which would be taken for a slash. -/
structure IsPlainName (n : String) : Prop where
  isName : IsName n
  no_backslash : '\\' ∉ n.toList

section Plain

variable {ns : List String} (hne : ns ≠ []) (hns : ∀ n ∈ ns, IsPlainName n)

include hne hns

/-- Plain names joined by slashes are the text by which a path is judged. -/
theorem toList_pathText_of_plain (base : Path) :
    (pathText (base.below ns) base).toList = ['/'].intercalate (ns.map String.toList) :=
  toList_pathText_joined base hne fun n hn => (hns n hn).no_backslash

/-- The parts by which a path of plain names is judged are these names. -/
theorem split_pathText_of_plain (base : Path) :
    split '/' (pathText (base.below ns) base).toList = ns.map String.toList := by
  rw [toList_pathText_of_plain hne hns]
  exact split_joined hne fun n hn => (hns n hn).isName.no_slash

end Plain

/-- A name with a letter and without slashes is plain. -/
theorem isPlainName_of_mem {cs : List Char} (hx : 'x' ∈ cs) (hs : '/' ∉ cs) (hb : '\\' ∉ cs) :
    IsPlainName (String.ofList cs) := by
  have hne : ∀ t : String, 'x' ∉ t.toList → String.ofList cs ≠ t := by
    rintro t ht rfl
    exact ht (by rwa [String.toList_ofList])
  refine ⟨⟨hne _ (by decide), hne _ (by decide), hne _ (by decide), ?_⟩, ?_⟩
  · rwa [String.toList_ofList]
  · rwa [String.toList_ofList]

/-- A name cut in two, with a letter at the cut of each half, is two plain names. -/
theorem IsPlainName.cut {n : String} (hn : IsPlainName n) {as bs : List Char}
    (h : n.toList = as ++ bs) :
    IsPlainName (String.ofList (as ++ ['x'])) ∧ IsPlainName (String.ofList ('x' :: bs)) := by
  have hs := hn.isName.no_slash
  have hb := hn.no_backslash
  rw [h, List.mem_append, not_or] at hs hb
  exact ⟨isPlainName_of_mem (by simp) (by simpa using hs.1) (by simpa using hb.1),
    isPlainName_of_mem (by simp) (by simpa using hs.2) (by simpa using hb.2)⟩

/-- A slash with a letter on both sides, put anywhere into plain names joined by slashes, makes one
name more. -/
theorem exists_plain_of_gap : ∀ {ns : List String}, ns ≠ [] → (∀ n ∈ ns, IsPlainName n) →
    ∀ {as bs : List Char}, ['/'].intercalate (ns.map String.toList) = as ++ bs →
      ∃ ns' : List String, ns'.length = ns.length + 1 ∧ (∀ n ∈ ns', IsPlainName n) ∧
        ['/'].intercalate (ns'.map String.toList) = as ++ ['x', '/', 'x'] ++ bs
  | [n], _, hns, as, bs, h => by
    have hcut := (hns n List.mem_cons_self).cut (by simpa using h)
    refine ⟨[.ofList (as ++ ['x']), .ofList ('x' :: bs)], rfl, ?_, ?_⟩
    · simpa using hcut
    · simp [List.intercalate_cons_cons, String.toList_ofList]
  | n :: m :: ns, _, hns, as, bs, h => by
    obtain ⟨hn, hrest⟩ := List.forall_mem_cons.mp hns
    simp only [List.map_cons, List.intercalate_cons_cons, List.append_assoc,
      List.singleton_append] at h
    -- a place in the first name, right after it included, or one further on
    have hfirst : ∀ cs : List Char, n.toList = as ++ cs →
        bs = cs ++ '/' :: ['/'].intercalate ((m :: ns).map String.toList) →
        ∃ ns' : List String, ns'.length = (n :: m :: ns).length + 1 ∧
          (∀ n ∈ ns', IsPlainName n) ∧
          ['/'].intercalate (ns'.map String.toList) = as ++ ['x', '/', 'x'] ++ bs := by
      intro cs hcs hbs
      have hcut := hn.cut hcs
      refine ⟨.ofList (as ++ ['x']) :: .ofList ('x' :: cs) :: m :: ns, rfl, ?_, ?_⟩
      · exact List.forall_mem_cons.mpr ⟨hcut.1, List.forall_mem_cons.mpr ⟨hcut.2, hrest⟩⟩
      · simp [hbs, List.intercalate_cons_cons, String.toList_ofList]
    rcases List.append_eq_append_iff.mp h with ⟨as', has, hlater⟩ | ⟨cs, hcs, hbs⟩
    · rcases as' with _ | ⟨c, as'⟩
      · exact hfirst [] (by simpa using has.symm) hlater.symm
      · obtain ⟨rfl, htail⟩ := List.cons_eq_cons.mp hlater
        obtain ⟨ns', hlen, hplain, he⟩ :=
          exists_plain_of_gap (List.cons_ne_nil m ns) hrest htail
        refine ⟨n :: ns', by simp [hlen], List.forall_mem_cons.mpr ⟨hn, hplain⟩, ?_⟩
        obtain ⟨k, ns', rfl⟩ := List.exists_cons_of_length_eq_add_one hlen
        rw [List.map_cons] at he
        simp [has, List.intercalate_cons_cons, he]
    · exact hfirst cs hcs hbs

/-! ## Patterns with a slash -/

/-- A pattern with a slash before its last character that is no negation and has no two stars in a
row. -/
structure IsPathPattern (p : String) : Prop where
  slash : '/' ∈ p.toList.dropLast
  positive : isNegation p = false
  apart : ¬ "**".toList <:+: p.toList

/-- A pattern without one slash at its start. -/
def cutRoot : List Char → List Char
  | '/' :: cs => cs
  | cs => cs

/-- Nothing is cut where there is no slash. -/
theorem cutRoot_of_ne {c : Char} (hc : c ≠ '/') (cs : List Char) : cutRoot (c :: cs) = c :: cs := by
  unfold cutRoot
  split
  · rename_i he
    exact absurd (List.cons_eq_cons.mp he).1 hc
  · rfl

/-- Such a pattern is compared with whole paths only. -/
theorem IsPathPattern.scope_eq {p : String} (hp : IsPathPattern p) :
    scope p.toList = (false, cutRoot p.toList) := by
  have hslash : '/' ∈ p.toList := List.mem_of_mem_dropLast hp.slash
  have hapart := hp.apart
  unfold scope
  split
  · rename_i cs hcs
    rw [hcs]
    rfl
  · rename_i cs hcs
    exact absurd (hcs ▸ ⟨[], '/' :: cs, rfl⟩) hapart
  · rename_i hroot _
    have hcut : cutRoot p.toList = p.toList := by
      cases hcs : p.toList with
      | nil => rfl
      | cons c cs =>
        refine cutRoot_of_ne (fun hc => hroot cs ?_) cs
        rw [hcs, hc]
    rw [hcut]
    simp [hslash]

/-- There are as many parts as globs, and each glob matches the part at its place. -/
def MatchedByParts (globs : List Glob) (parts : List (List Char)) : Prop :=
  List.Forall₂ (fun g part => g.accepts part = true) globs parts

/-- A text that matches part by part matches as a whole, with as many parts. -/
theorem matchedByParts_splitOn_iff {g : Glob} {cs : List Char} :
    MatchedByParts (g.splitOn (.char '/')) (split '/' cs) ↔
      g.accepts cs = true ∧ (split '/' cs).length = (g.splitOn (.char '/')).length := by
  unfold MatchedByParts
  simp only [Glob.accepts_iff_fits, split_eq_splitOn]
  exact Glob.forall₂_splitOn_iff

/-- A text that matches has as many parts or more. -/
theorem length_splitOn_le_of_accepts {g : Glob} {cs : List Char} (h : g.accepts cs = true) :
    (g.splitOn (.char '/')).length ≤ (split '/' cs).length := by
  have hle := (Glob.accepts_iff_fits.mp h).count_le
  rw [split_eq_splitOn, Glob.length_splitOn, Glob.length_splitOn]
  omega

section PathPattern

variable {p : String} (hp : IsPathPattern p) (base : Path)

include hp

/-- Such a pattern ignores the files whose whole path its glob matches. -/
theorem IsPathPattern.ignored_iff (path : Path) :
    ignored [p] base path (.ok false) = .ok true ↔
      endsWith ['/'] p.toList = false ∧
        (Glob.parseFrom 0 (cutRoot p.toList)).accepts (pathText path base).toList = true := by
  rw [ignored_file_iff hp.positive, hp.scope_eq]
  simp only [Bool.false_eq_true, false_and, or_false]

/-- Where a star is, one part more can be put into a path that is ignored. -/
theorem IsPathPattern.exists_deeper (hstar : .star ∈ Glob.parseFrom 0 (cutRoot p.toList))
    {ns : List String} (hne : ns ≠ []) (hns : ∀ n ∈ ns, IsPlainName n)
    (h : ignored [p] base (base.below ns) (.ok false) = .ok true) :
    ∃ ns' : List String, ns'.length = ns.length + 1 ∧ (∀ n ∈ ns', IsPlainName n) ∧
      ignored [p] base (base.below ns') (.ok false) = .ok true := by
  obtain ⟨hend, hacc⟩ := (hp.ignored_iff base _).mp h
  rw [toList_pathText_of_plain hne hns, Glob.accepts_iff_fits] at hacc
  obtain ⟨as, bs, hcut, hgap⟩ := hacc.exists_gap hstar
  obtain ⟨ns', hlen, hplain, he⟩ := exists_plain_of_gap hne hns hcut
  have hne' : ns' ≠ [] := List.ne_nil_of_length_eq_add_one hlen
  refine ⟨ns', hlen, hplain, (hp.ignored_iff base _).mpr ⟨hend, ?_⟩⟩
  rw [toList_pathText_of_plain hne' hplain, he, Glob.accepts_iff_fits]
  exact hgap _ fun _ _ => rfl

end PathPattern

/-- **When a path is matched part by part.** A path that a pattern with a slash ignores has at least
as many parts as the pattern, and is matched part by part exactly if it has no more; and what is
matched part by part is ignored, unless the pattern is for directories only. The parts of the pattern
are those of its text, if no slash stands between brackets, and the parts of a path are its names, if
none has a backslash. A pattern of characters alone is always matched part by part. But a pattern with
a star that ignores any path also ignores one with a part more, which is not. -/
theorem matchedByParts_iff {p : String} (hp : IsPathPattern p) (base path : Path) :
    let text := cutRoot p.toList
    let g := Glob.parseFrom 0 text
    let globs := g.splitOn (.char '/')
    let parts := split '/' (pathText path base).toList
    (ignored [p] base path (.ok false) = .ok true →
      globs.length ≤ parts.length ∧
        (MatchedByParts globs parts ↔ parts.length = globs.length)) ∧
    (endsWith ['/'] p.toList = false → MatchedByParts globs parts →
      ignored [p] base path (.ok false) = .ok true) ∧
    (Glob.SlashesApart text → globs = (split '/' text).map (Glob.parseFrom 0)) ∧
    (∀ ns, ns ≠ [] → (∀ n ∈ ns, IsPlainName n) → path = base.below ns →
      parts = ns.map String.toList) ∧
    ((∀ i ∈ g, ∃ c, i = .char c) → ignored [p] base path (.ok false) = .ok true →
      MatchedByParts globs parts) ∧
    (.star ∈ g → ∀ ns, ns ≠ [] → (∀ n ∈ ns, IsPlainName n) →
      ignored [p] base (base.below ns) (.ok false) = .ok true →
      ∃ ns' : List String, ns'.length = ns.length + 1 ∧ (∀ n ∈ ns', IsPlainName n) ∧
        ignored [p] base (base.below ns') (.ok false) = .ok true ∧
        ¬ MatchedByParts globs (ns'.map String.toList)) := by
  intro text g globs parts
  refine ⟨fun h => ?_, fun hend h => ?_, ?_, ?_, fun hchars h => ?_, fun hstar ns hne hns h => ?_⟩
  · have hacc := ((hp.ignored_iff base path).mp h).2
    exact ⟨length_splitOn_le_of_accepts hacc,
      matchedByParts_splitOn_iff.trans (and_iff_right hacc)⟩
  · exact (hp.ignored_iff base path).mpr ⟨hend, (matchedByParts_splitOn_iff.mp h).1⟩
  · intro hapart
    rw [split_eq_splitOn]
    exact Glob.splitOn_parseFrom hapart
  · rintro ns hne hns rfl
    exact split_pathText_of_plain hne hns base
  · have hacc := ((hp.ignored_iff base path).mp h).2
    refine matchedByParts_splitOn_iff.mpr ⟨hacc, ?_⟩
    rw [split_eq_splitOn, Glob.length_splitOn, Glob.length_splitOn,
      (Glob.accepts_iff_fits.mp hacc).count_eq_of_char hchars]
  · obtain ⟨ns', hlen, hplain, h'⟩ := hp.exists_deeper base hstar hne hns h
    refine ⟨ns', hlen, hplain, h', fun hmatched => ?_⟩
    -- the pattern has at most as many parts as the shorter path
    have hle := length_splitOn_le_of_accepts ((hp.ignored_iff base _).mp h).2
    rw [split_pathText_of_plain hne hns, List.length_map] at hle
    have heq := hmatched.length_eq
    rw [List.length_map] at heq
    exact absurd (heq ▸ hle) (by omega)

/-- A pattern for the top of a directory. -/
theorem isPathPattern_root : IsPathPattern "/*.py" :=
  ⟨by decide, by decide, by decide⟩

/-- A file at the top is matched part by part. -/
theorem matchedByParts_root :
    IsPathPattern "/*.py" ∧
      ignored ["/*.py"] .current ⟨.here, ["b.py"]⟩ (.ok false) = .ok true ∧
      MatchedByParts [Glob.ofString "*.py"] ["b.py".toList] := by
  have h : ignored ["/*.py"] .current ⟨.here, ["b.py"]⟩ (.ok false) = .ok true := by decide +kernel
  exact ⟨isPathPattern_root, h,
    ((matchedByParts_iff isPathPattern_root .current ⟨.here, ["b.py"]⟩).1 h).2.mpr rfl⟩

/-- **A path is not always matched part by part.** A file in a directory is ignored by a pattern for
files at the top. -/
theorem not_forall_matchedByParts :
    ¬ ∀ (p : String) (base path : Path), IsPathPattern p →
      ignored [p] base path (.ok false) = .ok true →
      MatchedByParts ((split '/' (cutRoot p.toList)).map (Glob.parseFrom 0))
        (split '/' (pathText path base).toList) := by
  intro h
  have hmatched := h "/*.py" .current ⟨.here, ["a", "b.py"]⟩ isPathPattern_root (by decide +kernel)
  exact absurd hmatched.length_eq (by decide)

/-! ## Patterns for any directory -/

/-- A part of a pattern that stands for itself: it has no slash and no character with a meaning of its
own in globs. -/
structure IsLiteralPart (n : String) : Prop where
  ne_empty : n ≠ ""
  no_slash : '/' ∉ n.toList
  no_star : '*' ∉ n.toList
  no_one : '?' ∉ n.toList
  no_set : '[' ∉ n.toList

/-- The pattern for a path of the given parts in any directory. -/
def anyDirectory (ps : List String) : String :=
  "**/" ++ "/".intercalate ps

section Literal

variable {ps : List String} (hps : ∀ n ∈ ps, IsLiteralPart n)

include hps

/-- Joined literal parts accept themselves only. -/
theorem accepts_joined_iff {cs : List Char} :
    (Glob.parseFrom 0 (['/'].intercalate (ps.map String.toList))).accepts cs = true ↔
      cs = ['/'].intercalate (ps.map String.toList) :=
  Glob.accepts_literal_iff (not_mem_joined (by decide) fun n hn => (hps n hn).no_star)
    (not_mem_joined (by decide) fun n hn => (hps n hn).no_one)
    (not_mem_joined (by decide) fun n hn => (hps n hn).no_set)

variable (hne : ps ≠ [])

include hne

/-- The pattern does not end with a slash. -/
theorem endsWith_anyDirectory : endsWith ['/'] (anyDirectory ps).toList = false := by
  obtain ⟨qs, n, rfl⟩ := (List.eq_nil_or_concat' ps).resolve_left hne
  have hn : IsLiteralPart n := hps n (by simp)
  have hsuffix : n.toList <:+ (anyDirectory (qs ++ [n])).toList := by
    rw [anyDirectory, String.toList_append, String.toList_intercalate]
    exact (suffix_intercalate (by simp)).trans (List.suffix_append _ _)
  obtain ⟨before, hbefore⟩ := hsuffix
  have hnil : n.toList ≠ [] := fun h => hn.ne_empty (String.toList_eq_nil_iff.mp h)
  rw [Bool.eq_false_iff]
  intro hend
  obtain ⟨front, hfront⟩ := endsWith_iff.mp hend
  have hlast : (before ++ n.toList).getLast? = some '/' := by
    rw [hbefore, ← hfront]
    simp
  rw [List.getLast?_append_of_ne_nil _ hnil] at hlast
  exact hn.no_slash (List.mem_of_getLast? hlast)

/-- Such a pattern ignores a file whose path is its text, or has that text as a part. -/
theorem ignored_anyDirectory_iff_text (base path : Path) :
    ignored [anyDirectory ps] base path (.ok false) = .ok true ↔
      (pathText path base).toList = ['/'].intercalate (ps.map String.toList) ∨
        ['/'].intercalate (ps.map String.toList) ∈ split '/' (pathText path base).toList := by
  have hstars : (anyDirectory ps).toList =
      '*' :: '*' :: '/' :: ['/'].intercalate (ps.map String.toList) := by
    rw [anyDirectory, String.toList_append, String.toList_intercalate]
    rfl
  have hpositive : isNegation (anyDirectory ps) = false := by
    rw [isNegation, hstars]
    rfl
  have hscope : scope (anyDirectory ps).toList =
      (true, ['/'].intercalate (ps.map String.toList)) := by
    rw [hstars]
    rfl
  rw [ignored_file_iff hpositive, hscope, endsWith_anyDirectory hps hne]
  simp only [accepts_joined_iff hps, true_and, exists_eq_right]

end Literal

/-- The text of a path has at least one part for each name. -/
theorem length_le_length_split_pathText (base : Path) {ns : List String} (hne : ns ≠ []) :
    ns.length ≤ (split '/' (pathText (base.below ns) base).toList).length := by
  rw [split_pathText_below base hne]
  clear hne
  induction ns with
  | nil => exact Nat.le_refl 0
  | cons n ns ih =>
    have hpos := List.length_pos_of_ne_nil
      (split_eq_splitOn '/' (replaceChar '\\' ['/'] n.toList) ▸ List.splitOn_ne_nil '/' _)
    rw [List.flatMap_cons, List.length_append, List.length_cons]
    omega

/-- The text of a path has no backslashes. -/
theorem backslash_not_mem_pathText (base : Path) {ns : List String} (hne : ns ≠ []) :
    '\\' ∉ (pathText (base.below ns) base).toList := by
  rw [toList_pathText_below base hne, replaceChar, List.mem_flatMap]
  rintro ⟨c, -, hc⟩
  split_ifs at hc with h
  · simp at hc
  · exact h (by simpa using (List.mem_singleton.mp hc).symm)

/-- **When a pattern for any directory finds a path.** A pattern of two stars, a slash and a path
without wildcards ignores the path below the given directories exactly if no part of the path has a
backslash and there are no directories, or the path is a single name. -/
theorem ignored_anyDirectory_iff (base : Path) (ds : List String) {ps : List String} (hne : ps ≠ [])
    (hps : ∀ n ∈ ps, IsLiteralPart n) :
    ignored [anyDirectory ps] base (base.below (ds ++ ps)) (.ok false) = .ok true ↔
      (∀ n ∈ ps, '\\' ∉ n.toList) ∧ (ds = [] ∨ ∃ n, ps = [n]) := by
  have hnames : ds ++ ps ≠ [] := List.append_ne_nil_of_right_ne_nil ds hne
  rw [ignored_anyDirectory_iff_text hps hne]
  constructor
  · rintro (htext | hpart)
    · refine ⟨fun n hn hb => backslash_not_mem_pathText base hnames ?_, .inl ?_⟩
      · rw [htext]
        exact mem_intercalate_of_mem (List.mem_map_of_mem hn) hb
      · -- directories would be parts that the pattern does not have
        have hle := length_le_length_split_pathText base hnames
        rw [htext, split_joined hne fun n hn => (hps n hn).no_slash, List.length_append,
          List.length_map] at hle
        exact List.eq_nil_of_length_eq_zero (by omega)
    · refine ⟨fun n hn hb => backslash_not_mem_pathText base hnames ?_, .inr ?_⟩
      · have hmem := mem_intercalate_of_mem hpart
          (mem_intercalate_of_mem (List.mem_map_of_mem hn) hb)
        rwa [split_eq_splitOn, List.intercalate_splitOn] at hmem
      · -- a part has no slash
        have hslash := not_mem_of_mem_split hpart
        rcases ps with _ | ⟨n, _ | ⟨m, ps⟩⟩
        · exact absurd rfl hne
        · exact ⟨n, rfl⟩
        · exact absurd (by simp [List.intercalate_cons_cons]) hslash
  · rintro ⟨hb, rfl | ⟨n, rfl⟩⟩
    · refine .inl ?_
      rw [List.nil_append, toList_pathText_below base hne]
      exact replaceChar_eq_self (not_mem_joined (by decide) hb)
    · refine .inr ?_
      rw [split_pathText_below base hnames, List.mem_flatMap]
      refine ⟨n, by simp, ?_⟩
      rw [replaceChar_eq_self (hb n List.mem_cons_self), split_eq_splitOn,
        List.splitOn_eq_singleton (hps n List.mem_cons_self).no_slash]
      simp

theorem isLiteralPart_a : IsLiteralPart "a" :=
  ⟨by decide, by decide, by decide, by decide, by decide⟩

/-- A single name is found below two directories, and a path of two names is not found below one. -/
theorem ignored_anyDirectory_names :
    (∀ n ∈ ["a"], IsLiteralPart n) ∧ (∀ n ∈ ["a", "a"], IsLiteralPart n) ∧
      ignored [anyDirectory ["a"]] .current (Path.current.below ["d", "e", "a"]) (.ok false) =
        .ok true ∧
      ignored [anyDirectory ["a", "a"]] .current (Path.current.below ["d", "a", "a"]) (.ok false) ≠
        .ok true := by
  have hone : ∀ n ∈ ["a"], IsLiteralPart n := by simpa using isLiteralPart_a
  have htwo : ∀ n ∈ ["a", "a"], IsLiteralPart n := by simpa using isLiteralPart_a
  refine ⟨hone, htwo, ?_, ?_⟩
  · exact (ignored_anyDirectory_iff .current ["d", "e"] (by simp) hone).mpr
      ⟨by decide, .inr ⟨"a", rfl⟩⟩
  · intro h
    simpa using ((ignored_anyDirectory_iff .current ["d"] (by simp) htwo).mp h).2

/-- **A path is not always found in any directory.** A path of two names is missed below a
directory. -/
theorem not_forall_ignored_anyDirectory :
    ¬ ∀ (base : Path) (ds ps : List String), (∀ n ∈ ds, IsPlainName n) → ps ≠ [] →
      (∀ n ∈ ps, IsPlainName n ∧ IsLiteralPart n) →
      ignored [anyDirectory ps] base (base.below (ds ++ ps)) (.ok false) = .ok true := by
  intro h
  have hplain : IsPlainName "a" := ⟨by decide, by decide⟩
  have hfound := h .current ["a"] ["a", "a"] (by simpa using hplain) (by simp)
    (by simpa using ⟨hplain, isLiteralPart_a⟩)
  exact absurd hfound (by decide +kernel)

end Codebook.Ignore
