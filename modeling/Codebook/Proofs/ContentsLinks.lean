import Mathlib
import Codebook.Proofs.DiscoveryOrder

/-!
# Links of the table of contents

A line of the table of contents links to the heading of a module by the anchor of the module's name:
the name in lower case, without its dots.

* `filter_lowerFrom`, `anchor_eq`: it makes no difference whether the dots are left out before or after
  lower case is taken. A dot does not count where the end of a word is looked for, and no other
  character has a dot for its lower case.
* `Mark`, `Shows`, `Resolves`: what a text shows of links and headings, and what it is for the links to
  name the headings of their own modules and no others.
* `contents_resolve_iff`: the links of the default document do so exactly if no two modules have names
  that differ in dots and in case only.
-/

namespace Codebook.Document

open Text

/-! ## Anchors -/

/-- A name without its dots. -/
def undotted (name : String) : String :=
  String.ofList (name.toList.filter (· != '.'))

/-- A character that is replaced by nothing is dropped. -/
theorem replaceChar_nil (c : Char) (cs : List Char) : replaceChar c [] cs = cs.filter (· != c) := by
  induction cs with
  | nil => rfl
  | cons x cs ih =>
    rw [replaceChar, List.flatMap_cons, ← replaceChar, ih, List.filter_cons]
    cases hx : x == c <;> simp [bne, hx]

/-- Dots do not matter for the case of what follows. -/
theorem casedAfter_filter (cs : List Char) : casedAfter (cs.filter (· != '.')) = casedAfter cs := by
  induction cs with
  | nil => rfl
  | cons c cs ih =>
    unfold casedAfter at ih ⊢
    by_cases hdot : c = '.'
    · subst hdot
      rw [List.filter_cons_of_neg (by simp), ih, List.dropWhile_cons_of_pos (by decide)]
    · rw [List.filter_cons_of_pos (by simpa using hdot)]
      by_cases hignorable : isCaseIgnorable c = true
      · rw [List.dropWhile_cons_of_pos hignorable, List.dropWhile_cons_of_pos hignorable, ih]
      · rw [List.dropWhile_cons_of_neg hignorable, List.dropWhile_cons_of_neg hignorable]

/-- No other character has a lower case that is such a sign. -/
theorem toLower_ne {x c : Char} (hx : x.toNat ≤ 46) (h : c ≠ x) : c.toLower ≠ x := by
  unfold Char.toLower
  split
  · rename_i hupper
    intro hlower
    have hval : c.val + 32 = x.val := congrArg Char.val hlower
    have hfrom : (65 : UInt32) ≤ c.val := hupper.1
    have hto : c.val ≤ (90 : UInt32) := hupper.2
    have hlow : x.val ≤ (46 : UInt32) := hx
    grind
  · exact h

/-- Up to the dot, a character is the lower case of itself only. -/
theorem lowerChar_ne {x c : Char} (hx : 0 < x.toNat ∧ x.toNat ≤ 46) (h : c ≠ x) :
    lowerChar c ≠ x := by
  have hruns : lowerRuns.toList.all (fun r => decide (46 < (r.1 : Int) + r.2.2.2)) = true := by
    decide
  unfold lowerChar
  split_ifs
  · exact toLower_ne hx.2 h
  · split
    · rename_i r hfind
      have hmem : r ∈ lowerRuns.toList := Array.mem_toList_iff.mpr (Array.mem_of_find?_eq_some hfind)
      have habove := of_decide_eq_true (List.all_eq_true.mp hruns r hmem)
      have hfrom : r.1 ≤ c.toNat := by
        have hrun := Array.find?_some hfind
        simp only [Bool.and_eq_true, decide_eq_true_eq] at hrun
        exact hrun.1.1
      intro hlower
      have hcode := congrArg Char.toNat hlower
      rw [Char.toNat_ofNat] at hcode
      split_ifs at hcode
      · have hsum : (Int.toNat (c.toNat + r.2.2.2)) = x.toNat := hcode
        omega
      · omega
    · exact h

/-- Up to the dot, a character comes into a text by lower case only from itself. -/
theorem mem_of_mem_lowerFrom {x : Char} (hx : 0 < x.toNat ∧ x.toNat ≤ 46) {before cs : List Char}
    (h : x ∈ lowerFrom before cs) : x ∈ cs := by
  induction cs generalizing before with
  | nil => exact h
  | cons c cs ih =>
    rw [lowerFrom, List.mem_append] at h
    rcases h with h | h
    · by_cases hc : c = x
      · exact hc ▸ List.mem_cons_self
      · have hlower := lowerChar_ne hx hc
        have hfinal : x ≠ '\u03c2' ∧ x ≠ '\u03c3' ∧ x ≠ 'i' ∧ x ≠ '\u0307' := by
          refine ⟨?_, ?_, ?_, ?_⟩ <;> · rintro rfl; exact absurd hx.2 (by decide)
        split_ifs at h <;> simp_all
    · exact List.mem_cons_of_mem _ (ih h)

/-- The dots may be left out before lower case is taken. -/
theorem filter_lowerFrom (before cs : List Char) :
    (lowerFrom before cs).filter (· != '.') =
      lowerFrom (before.filter (· != '.')) (cs.filter (· != '.')) := by
  induction cs generalizing before with
  | nil => rfl
  | cons c cs ih =>
    rw [lowerFrom, List.filter_append, ih]
    by_cases hdot : c = '.'
    · subst hdot
      rw [List.filter_cons_of_neg (by simp), List.filter_cons_of_neg (by simp)]
      rfl
    · rw [List.filter_cons_of_pos (by simpa using hdot), List.filter_cons_of_pos (by simpa using hdot),
        lowerFrom, casedAfter_filter, casedAfter_filter]
      congr 1
      split_ifs
      · rfl
      · rfl
      · rfl
      · simpa using lowerChar_ne (by decide) hdot

/-- An anchor is the lower case of a name without its dots. -/
theorem anchor_eq (name : String) : anchor name = lower (undotted name) := by
  rw [anchor, replaceChar_nil, lower, lower, undotted, String.toList_ofList, String.toList_ofList,
    filter_lowerFrom]
  rfl

/-! ## Links and headings -/

/-- A link or a heading: the name of a module, and the anchor that the link goes to or the heading
has. -/
structure Mark where
  name : String
  anchor : String
  deriving DecidableEq

/-- The line of a link. -/
def Mark.link (k : Mark) : String :=
  "- [Module: " ++ k.name ++ "](#" ++ k.anchor ++ ")\n"

/-- The line of a heading. -/
def Mark.heading (k : Mark) : String :=
  "## Module: " ++ k.name ++ " <a id='" ++ k.anchor ++ "'></a>\n\n"

/-- The text is a table of contents with links, and then headings, each with something behind it. -/
def Shows (text : String) (links headings : List Mark) : Prop :=
  ∃ bodies : List String, bodies.length = headings.length ∧
    text = "# Codebase Documentation\n\n" ++ ("## Table of Contents\n\n" ++
      String.join (links.map Mark.link) ++ "\n") ++
        String.join (List.zipWith (fun k body => k.heading ++ body) headings bodies)

/-- The anchors of the headings are different, and each link names the heading of its own module and
no other. -/
structure Resolves (links headings : List Mark) : Prop where
  nodup : (headings.map Mark.anchor).Nodup
  names : ∀ l ∈ links, ∀ h ∈ headings, l.anchor = h.anchor ↔ l.name = h.name

/-- The links and the headings of modules, in their order. -/
def marks (ms : List ModuleRecord) : List Mark :=
  (sortedBy ModuleRecord.name ms).map fun m => ⟨m.name, anchor m.name⟩

/-- What stands behind the heading of a module. -/
def moduleBody (m : ModuleRecord) : String :=
  "File: \x60" ++ m.origin.file ++ "\x60\n\n" ++ paragraph m.docstring ++
    headed "### Functions" ((sortedBy (·.name) m.functions).map (functionPart "####" [])) ++
    headed "### Classes" ((sortedBy (·.name) m.classes).map classPart) ++ "---\n\n"

/-- A module is its heading and a body. -/
theorem modulePart_eq (m : ModuleRecord) :
    modulePart m = (Mark.mk m.name (anchor m.name)).heading ++ moduleBody m := by
  have hassoc : ∀ s a b c d e f g : String,
      s ++ a ++ b ++ c ++ d ++ e ++ f ++ g = s ++ (a ++ b ++ c ++ d ++ e ++ f ++ g) := by
    simp [String.append_assoc]
  exact hassoc _ _ _ _ _ _ _ _

/-- A document shows the same marks in contents and headings. -/
theorem shows_markdown (ms : List ModuleRecord) :
    Shows (markdown defaultSections ms) (marks ms) (marks ms) := by
  refine ⟨(sortedBy ModuleRecord.name ms).map moduleBody, by simp [marks], ?_⟩
  have hlinks : (marks ms).map Mark.link = (sortedBy ModuleRecord.name ms).map contentsLine :=
    List.map_map
  have hparts : List.zipWith (fun k body => k.heading ++ body) (marks ms)
      ((sortedBy ModuleRecord.name ms).map moduleBody) =
        (sortedBy ModuleRecord.name ms).map modulePart := by
    rw [marks, List.zipWith_map, List.zipWith_self]
    exact List.map_congr_left fun m _ => (modulePart_eq m).symm
  have hjoin : ∀ a b c : String, String.join [a, b, c] = a ++ b ++ c := fun a b c => by
    simp [String.append_assoc]
  rw [hlinks, hparts]
  exact hjoin _ _ _

/-- There is one mark for each module. -/
theorem perm_marks (ms : List ModuleRecord) :
    (marks ms).Perm (ms.map fun m => ⟨m.name, anchor m.name⟩) :=
  (sortedBy_perm ModuleRecord.name ms).map _

/-- With different names, links resolve as soon as the anchors are different. -/
theorem resolves_iff_nodup {ks : List Mark} (hnames : (ks.map Mark.name).Nodup) :
    Resolves ks ks ↔ (ks.map Mark.anchor).Nodup := by
  refine ⟨fun h => h.nodup, fun h => ⟨h, fun l hl k hk => ⟨fun heq => ?_, fun heq => ?_⟩⟩⟩
  · rw [List.inj_on_of_nodup_map h hl hk heq]
  · rw [List.inj_on_of_nodup_map hnames hl hk heq]

/-- **Links of the table of contents name one module each unless names differ in dots and case only.**
The default document of modules with different names shows one link and one heading for each. The
anchors of the headings are different and each link names the heading of its own module and no other
exactly if no two names have the same lower case once their dots are left out. -/
theorem contents_resolve_iff {ms : List ModuleRecord} (hnames : (ms.map ModuleRecord.name).Nodup) :
    Shows (markdown defaultSections ms) (marks ms) (marks ms) ∧
      ((marks ms).map Mark.name).Perm (ms.map ModuleRecord.name) ∧
      (Resolves (marks ms) (marks ms) ↔
        ms.Pairwise fun m m' => lower (undotted m.name) ≠ lower (undotted m'.name)) := by
  have hperm : ((marks ms).map Mark.name).Perm (ms.map ModuleRecord.name) := by
    simpa [Function.comp_def] using (perm_marks ms).map Mark.name
  refine ⟨shows_markdown ms, hperm, ?_⟩
  rw [resolves_iff_nodup (hperm.nodup_iff.mpr hnames), ((perm_marks ms).map Mark.anchor).nodup_iff,
    List.map_map, List.Nodup, List.pairwise_map]
  simp only [Function.comp_apply, anchor_eq]

/-- Two modules whose names have the same letters in another order, and one in capitals. -/
theorem contents_resolve_modules :
    let ms := [bareModule "a.b.py" "a.b" [] [], bareModule "BA.py" "BA" [] [],
      bareModule "b.c.py" "b.c" [] []]
    (ms.map ModuleRecord.name).Nodup ∧ Resolves (marks ms) (marks ms) := by
  intro ms
  have hnames : (ms.map ModuleRecord.name).Nodup := by decide
  exact ⟨hnames, (contents_resolve_iff hnames).2.2.mpr (by decide)⟩

/-- A dot in a name does not keep its module apart from that of the name without it. -/
theorem not_forall_contents_resolve : ¬ ∀ ms : List ModuleRecord,
    (ms.map ModuleRecord.name).Nodup → Resolves (marks ms) (marks ms) := by
  intro h
  have hresolves := h [bareModule "a.b.py" "a.b" [] [], bareModule "ab.py" "ab" [] []] (by decide)
  have hmem : ∀ k ∈ [Mark.mk "a.b" (anchor "a.b"), ⟨"ab", anchor "ab"⟩],
      k ∈ marks [bareModule "a.b.py" "a.b" [] [], bareModule "ab.py" "ab" [] []] := by
    intro k hk
    rw [(perm_marks _).mem_iff]
    exact hk
  have hsame : anchor "a.b" = anchor "ab" := by decide
  have hname := (hresolves.names _ (hmem _ List.mem_cons_self) _
    (hmem _ (List.mem_cons_of_mem _ List.mem_cons_self))).mp hsame
  exact absurd hname (by decide)

end Codebook.Document
