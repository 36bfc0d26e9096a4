import Mathlib
import Codebook.Proofs.FileTree
import Codebook.Proofs.GlobExpressions
import Codebook.Proofs.PathText
import Codebook.Proofs.SettingsTexts
import Codebook.TestNaming

/-!
# Globs of test files

A project lists globs of its test files in its settings, and a file is compared with the patterns
written for them. The globs are honoured (`Honoured`) if the files that count as tests are those whose
names match one of the globs as a whole (`Whole`). A pattern does something else (`Taken`), for two
reasons. It is tried at the start of a name and asks nothing of what follows. And the glob that it is
written for is not always the one in the settings (`reading`): five shapes stand for whole families of
globs, and in all others a star stands for dots.

* `IsGlob.agrees_iff`: for names of source files without line breaks, both come to the same exactly
  for a text with stars after it and for the usual heads with stars before the ending.
  `IsGlob.exists_name_of_star` and its neighbours give names that tell them apart for all other globs.
* `honoured_iff`: what this means for the settings file of a project.
* `not_forall_honoured`: a star in the middle of a glob is enough for it not to be honoured.
-/

namespace Codebook.TestNaming

open Text

/-! ## Answers -/

/-- If every pattern gives an answer, then so do all of them together. -/
theorem anyMatches_eq_ok {name : String} {ps : List String}
    (h : ∀ p ∈ ps, ∃ b, Regex.test p name = .ok b) :
    ∃ b, anyMatches name ps = .ok b ∧ (b = true ↔ ∃ p ∈ ps, Regex.test p name = .ok true) := by
  induction ps with
  | nil => exact ⟨false, rfl, by simp⟩
  | cons p ps ih =>
    rw [List.forall_mem_cons] at h
    obtain ⟨b, hb⟩ := h.1
    obtain ⟨rest, hrest, hiff⟩ := ih h.2
    rw [anyMatches, hb]
    cases b with
    | true => exact ⟨true, rfl, by simp [hb]⟩
    | false => exact ⟨rest, hrest, by simp [hb, hiff]⟩

/-! ## The glob behind a pattern -/

/-- The glob that the pattern for a glob is written for, and what its stars stand for. -/
def reading (g : List Char) : Regex.Filler × List Char :=
  let starts := fun p : String => startsWith p.toList g
  let ends := fun p : String => endsWith p.toList g
  if starts "test_" && ends ".py" then (.anything, "test_*.py".toList)
  else if ends "_test.py" then (.anything, "*_test.py".toList)
  else if ends "_spec.py" then (.anything, "*_spec.py".toList)
  else if starts "custom_" && ends ".py" then (.anything, "custom_*.py".toList)
  else if ends "_custom.py" then (.anything, "*_custom.py".toList)
  else (.dots, g)

/-- A glob without a pattern of its own is written with dots for its stars. -/
theorem replaceChar_eq_expressionText (g : List Char) :
    replaceChar '.' ['\\', '.'] (replaceChar '*' ['.', '*'] g) = Regex.expressionText .dots g := by
  rw [replaceChar, replaceChar, List.flatMap_assoc, Regex.expressionText]
  refine List.flatMap_congr fun c _ => ?_
  by_cases hstar : c = '*'
  · subst hstar
    rfl
  · by_cases hdot : c = '.'
    · subst hdot
      rfl
    · simp [Regex.charText, hstar, hdot]

/-- The pattern for a glob is the expression of its reading. -/
theorem pattern_eq (g : List Char) :
    pattern g = String.ofList (Regex.expressionText (reading g).1 (reading g).2) := by
  unfold pattern reading
  simp only [replaceChar_eq_expressionText]
  split_ifs <;> rfl

/-- The ending of source files. -/
def ending : List Char := ".py".toList

/-- The heads and tails of file names that have patterns of their own. -/
def heads : List (List Char) := ["test_".toList, "custom_".toList]

def tails : List (List Char) := ["_test.py".toList, "_spec.py".toList, "_custom.py".toList]

/-- A glob has one of the heads, one of the tails, or no pattern of its own. -/
theorem reading_cases (g : List Char) :
    (∃ head ∈ heads, head <+: g ∧ ending <:+ g ∧
        reading g = (.anything, head ++ '*' :: ending)) ∨
      (∃ tail ∈ tails, tail <:+ g ∧ reading g = (.anything, '*' :: tail)) ∨
      (∀ head ∈ heads, head <+: g → ¬ ending <:+ g) ∧ reading g = (.dots, g) := by
  unfold reading
  simp only [Bool.and_eq_true, startsWith_iff, endsWith_iff]
  split_ifs with h₁ h₂ h₃ h₄ h₅
  · exact .inl ⟨_, by simp [heads], h₁.1, h₁.2, rfl⟩
  · exact .inr (.inl ⟨_, by simp [tails], h₂, rfl⟩)
  · exact .inr (.inl ⟨_, by simp [tails], h₃, rfl⟩)
  · exact .inl ⟨_, by simp [heads], h₄.1, h₄.2, rfl⟩
  · exact .inr (.inl ⟨_, by simp [tails], h₅, rfl⟩)
  · refine .inr (.inr ⟨?_, rfl⟩)
    intro head hhead hstart hend
    simp only [heads, List.mem_cons, List.not_mem_nil, or_false] at hhead
    rcases hhead with rfl | rfl
    · exact h₁ ⟨hstart, hend⟩
    · exact h₄ ⟨hstart, hend⟩

/-! ## Two ways to match -/

/-- The characters of ordinary file names. Apart from the dot, which is quoted, they stand for
themselves in a settings file, in a glob and in an expression. -/
def isPlain (c : Char) : Bool :=
  c == '.' || !(isBlank c || Regex.specials.contains c || c == '%' || c == '/')

/-- A glob of ordinary characters and stars. -/
structure IsGlob (g : List Char) : Prop where
  ne_nil : g ≠ []
  plain : ∀ c ∈ g, c = '*' ∨ isPlain c = true

instance (g : List Char) : Decidable (IsGlob g) :=
  have := List.decidableBAll (fun c => c = '*' ∨ isPlain c = true) g
  decidable_of_iff (g ≠ [] ∧ ∀ c ∈ g, c = '*' ∨ isPlain c = true)
    ⟨fun h => ⟨h.1, h.2⟩, fun h => ⟨h.1, h.2⟩⟩

/-- The name matches the glob as a whole. -/
def Whole (g : List Char) (name : String) : Prop :=
  (Glob.parseFrom 0 g).accepts name.toList = true

/-- A start of the name matches the glob that the pattern is written for. -/
def Taken (g : List Char) (name : String) : Prop :=
  ∃ start, start <+: name.toList ∧
    Glob.Fits (reading g).1.takes ((reading g).2.map Glob.itemOf) start

namespace IsGlob

variable {g : List Char} (hg : IsGlob g)

include hg

/-- Other characters than stars are plain. -/
theorem not_mem {c : Char} (hstar : c ≠ '*') (hc : isPlain c = false) : c ∉ g := by
  intro h
  rcases hg.plain c h with h | h
  · exact hstar h
  · rw [hc] at h
    cases h

/-- A glob holds no blanks. -/
theorem not_blank : ∀ c ∈ g, isBlank c = false := by
  intro c hc
  rcases hg.plain c hc with rfl | h
  · decide
  · simp only [isPlain, Bool.or_eq_true, beq_iff_eq, Bool.not_eq_true', Bool.or_eq_false_iff] at h
    rcases h with rfl | h
    · decide
    · exact h.1.1.1

/-- A glob can be written as an expression. -/
theorem isWritable : Regex.IsWritable g := by
  intro c hc
  rcases hg.plain c hc with h | h
  · exact .inl h
  · simp only [isPlain, Bool.or_eq_true, beq_iff_eq, Bool.not_eq_true', Bool.or_eq_false_iff] at h
    rcases h with h | h
    · exact .inr (.inl h)
    · exact .inr (.inr (by simpa using h.1.1.2))

/-- So can its reading. -/
theorem isWritable_reading : Regex.IsWritable (reading g).2 := by
  have hheads : ∀ head ∈ heads, Regex.IsWritable (head ++ '*' :: ending) := by decide
  have htails : ∀ tail ∈ tails, Regex.IsWritable ('*' :: tail) := by decide
  rcases reading_cases g with ⟨head, hhead, -, -, h⟩ | ⟨tail, htail, -, h⟩ | ⟨-, h⟩
  · exact h ▸ hheads head hhead
  · exact h ▸ htails tail htail
  · exact h ▸ hg.isWritable

/-- The pattern for a glob always gives an answer. -/
theorem test_pattern (name : String) :
    ∃ b, Regex.test (pattern g) name = .ok b ∧ (b = true ↔ Taken g name) := by
  rw [pattern_eq]
  exact Regex.test_expressionText _ hg.isWritable_reading name

/-- A name that matches as a whole fits the items of the glob. -/
theorem whole_iff {name : String} :
    Whole g name ↔ Glob.Fits (fun _ => true) (g.map Glob.itemOf) name.toList := by
  have hone : '?' ∉ g := hg.not_mem (by decide) (by decide)
  have hset : '[' ∉ g := hg.not_mem (by decide) (by decide)
  rw [Whole, Glob.parseFrom_eq_map hone hset, Glob.accepts_iff_fits]

end IsGlob

/-! ## Globs that are honoured -/

/-- The glob is a text and stars after it. -/
def Leading (g : List Char) : Prop :=
  ∃ lit k, '*' ∉ lit ∧ g = lit ++ List.replicate (k + 1) '*'

/-- The glob has stars between one of the heads and the ending of source files. -/
def Usual (g : List Char) : Prop :=
  ∃ head ∈ heads, ∃ k, g = head ++ List.replicate (k + 1) '*' ++ ending

/-- The name is that of a source file. -/
def IsSource (name : String) : Prop := ending <:+ name.toList

instance (name : String) : Decidable (IsSource name) :=
  inferInstanceAs (Decidable (ending <:+ name.toList))

theorem star_not_mem_heads : ∀ head ∈ heads, '*' ∉ head := by decide

theorem star_not_mem_tails : ∀ tail ∈ tails, '*' ∉ tail := by decide

/-- Every pattern of its own is for globs that end with the same letter. -/
theorem reading_of_getLast? {g : List Char} (h : g.getLast? ≠ some 'y') : reading g = (.dots, g) := by
  have hends : ∀ p : List Char, p.getLast? = some 'y' → ¬ p <:+ g := by
    intro p hp hs
    have hne : p ≠ [] := by
      rintro rfl
      cases hp
    rw [getLast?_of_suffix hs hne] at hp
    exact h hp
  rcases reading_cases g with ⟨head, -, -, hpy, -⟩ | ⟨tail, htail, hs, -⟩ | ⟨-, hr⟩
  · exact absurd hpy (hends _ (by decide))
  · have hlast : ∀ tail ∈ tails, tail.getLast? = some 'y' := by decide
    exact absurd hs (hends tail (hlast tail htail))
  · exact hr

/-- A glob with all stars at its end is honoured. -/
theorem IsGlob.agrees_of_leading {g : List Char} (hg : IsGlob g) (h : Leading g) (name : String) :
    Taken g name ↔ Whole g name := by
  rw [hg.whole_iff]
  obtain ⟨lit, k, hlit, rfl⟩ := h
  have hr : reading (lit ++ List.replicate (k + 1) '*') =
      (.dots, lit ++ List.replicate (k + 1) '*') := by
    refine reading_of_getLast? ?_
    rw [List.replicate_succ', ← List.append_assoc, List.getLast?_concat]
    decide
  have hfits : ∀ (run : Char → Bool) (cs : List Char),
      Glob.Fits run ((lit ++ List.replicate (k + 1) '*').map Glob.itemOf) cs ↔
        ∃ mid, cs = lit ++ mid ∧ ∀ c ∈ mid, run c = true := by
    intro run cs
    have h := @Glob.fits_around_iff run lit [] cs hlit List.not_mem_nil k
    simpa using h
  constructor
  · rintro ⟨start, ⟨rest, hrest⟩, hs⟩
    rw [hr] at hs
    obtain ⟨mid, rfl, -⟩ := (hfits _ _).mp hs
    exact (hfits _ _).mpr ⟨mid ++ rest, by rw [← hrest, List.append_assoc], fun _ _ => rfl⟩
  · intro hw
    obtain ⟨mid, hname, -⟩ := (hfits _ _).mp hw
    refine ⟨lit, ⟨mid, hname.symm⟩, ?_⟩
    rw [hr]
    exact (hfits _ _).mpr
      ⟨[], (List.append_nil lit).symm, fun _ hn => absurd hn List.not_mem_nil⟩

/-- Where a glob has one of the heads, the head and the ending do not share characters. -/
theorem exists_between {head g : List Char} (hhead : head ∈ heads) (hstart : head <+: g)
    (hend : ending <:+ g) : ∃ mid, g = head ++ mid ++ ending := by
  obtain ⟨rest, rfl⟩ := hstart
  have hrest : ending <:+ rest := by
    rcases List.suffix_or_suffix_of_suffix hend (List.suffix_append head rest) with h | h
    · exact h
    · have hall : ∀ head ∈ heads, ∀ rest ∈ ending.tails, ending <:+ head ++ rest →
          ending <:+ rest := by
        decide
      exact hall head hhead rest ((List.mem_tails _ _).mpr h) hend
  obtain ⟨mid, rfl⟩ := hrest
  exact ⟨mid, (List.append_assoc _ _ _).symm⟩

/-- What the pattern of a glob with one of the heads takes. -/
theorem taken_of_head {head g : List Char} (hhead : head ∈ heads)
    (hr : reading g = (.anything, head ++ '*' :: ending)) (name : String) :
    Taken g name ↔ ∃ mid, '\n' ∉ mid ∧ head ++ mid ++ ending <+: name.toList := by
  have hfits : ∀ cs, Glob.Fits (Regex.Filler.takes .anything)
      ((head ++ '*' :: ending).map Glob.itemOf) cs ↔
        ∃ mid, cs = head ++ mid ++ ending ∧ '\n' ∉ mid := by
    intro cs
    have h := @Glob.fits_around_iff (Regex.Filler.takes .anything) head ending cs
      (star_not_mem_heads head hhead) (by decide) 0
    have hglob : head ++ List.replicate (0 + 1) '*' ++ ending = head ++ '*' :: ending :=
      List.append_assoc _ _ _
    have hmid : ∀ mid : List Char,
        (∀ c ∈ mid, Regex.Filler.takes .anything c = true) ↔ '\n' ∉ mid := by
      intro mid
      simp only [Regex.Filler.takes, bne_iff_ne, ne_eq]
      exact ⟨fun h hn => h _ hn rfl, fun h c hc he => h (he ▸ hc)⟩
    simpa only [hglob, hmid] using h
  rw [Taken, hr]
  simp only [hfits]
  constructor
  · rintro ⟨_, hp, mid, rfl, hmid⟩
    exact ⟨mid, hmid, hp⟩
  · rintro ⟨mid, hmid, hp⟩
    exact ⟨_, hp, mid, rfl, hmid⟩

/-- The reading of a usual glob has one star. -/
theorem reading_of_usual {head : List Char} (hhead : head ∈ heads) (k : Nat) :
    reading (head ++ List.replicate (k + 1) '*' ++ ending) =
      (.anything, head ++ '*' :: ending) := by
  -- the star before the ending keeps all tails away, and the first letter tells the heads apart
  have hends : ∀ tail ∈ tails, ¬ tail <:+ head ++ List.replicate (k + 1) '*' ++ ending := by
    intro tail htail hs
    have hstar : '*' :: ending <:+ head ++ List.replicate (k + 1) '*' ++ ending := by
      rw [List.replicate_succ']
      exact ⟨head ++ List.replicate k '*', by simp⟩
    have hall : ∀ tail ∈ tails, ¬ '*' :: ending <:+ tail := by decide
    have hlength : ∀ tail ∈ tails, ('*' :: ending).length ≤ tail.length := by decide
    exact hall tail htail
      (List.suffix_of_suffix_length_le hstar hs (hlength tail htail))
  have hhead' : head <+: head ++ List.replicate (k + 1) '*' ++ ending := by
    rw [List.append_assoc]
    exact List.prefix_append _ _
  rcases reading_cases (head ++ List.replicate (k + 1) '*' ++ ending) with
    ⟨other, hother, hstart, -, hr⟩ | ⟨tail, htail, hs, -⟩ | ⟨hnone, -⟩
  · have hsame : ∀ head ∈ heads, ∀ other ∈ heads, head <+: other ∨ other <+: head →
        other = head := by
      decide
    rw [hr, hsame head hhead other hother (List.prefix_or_prefix_of_prefix hhead' hstart)]
  · exact absurd hs (hends tail htail)
  · exact absurd (List.suffix_append _ _) (hnone head hhead hhead')

/-- A usual glob is honoured for source files without line breaks. -/
theorem IsGlob.agrees_of_usual {g : List Char} (hg : IsGlob g) (h : Usual g) {name : String}
    (hsource : IsSource name) (hline : '\n' ∉ name.toList) : Taken g name ↔ Whole g name := by
  obtain ⟨head, hhead, k, rfl⟩ := h
  rw [hg.whole_iff, taken_of_head hhead (reading_of_usual hhead k),
    Glob.fits_around_iff (star_not_mem_heads head hhead) (by decide)]
  constructor
  · rintro ⟨mid, -, hp⟩
    have hstart : head <+: name.toList := by
      rw [List.append_assoc] at hp
      exact (List.prefix_append _ _).trans hp
    obtain ⟨mid', hname⟩ := exists_between hhead hstart hsource
    exact ⟨mid', hname, fun _ _ => rfl⟩
  · rintro ⟨mid, hname, -⟩
    refine ⟨mid, fun hn => hline ?_, hname ▸ List.prefix_refl _⟩
    rw [hname]
    simp [hn]

/-! ## Names that tell the two ways apart -/

/-- A source file without a slash in its name has an ordinary name. -/
theorem isName_of_isSource {cs : List Char} (hsource : IsSource (String.ofList cs))
    (hslash : '/' ∉ cs) : Path.IsName (String.ofList cs) := by
  have hne : ∀ s : String, ¬ ending <:+ s.toList → String.ofList cs ≠ s := by
    rintro s hs rfl
    exact hs hsource
  refine ⟨hne _ (by decide), hne _ (by decide), hne _ (by decide), ?_⟩
  rwa [String.toList_ofList]

/-- An ordinary name of a source file, which is one without line breaks. -/
structure SourceName (name : String) : Prop where
  isName : Path.IsName name
  source : IsSource name
  line : '\n' ∉ name.toList

/-- With the ending, ordinary characters make the name of a source file. -/
theorem sourceName_append {cs : List Char} (hslash : '/' ∉ cs) (hline : '\n' ∉ cs) :
    SourceName (String.ofList (cs ++ ending)) := by
  have hsource : IsSource (String.ofList (cs ++ ending)) := by
    rw [IsSource, String.toList_ofList]
    exact List.suffix_append _ _
  refine ⟨isName_of_isSource hsource ?_, hsource, ?_⟩
  · rw [List.mem_append, not_or]
    exact ⟨hslash, by decide⟩
  · rw [String.toList_ofList, List.mem_append, not_or]
    exact ⟨hline, by decide⟩

/-- A glob with one of the heads is honoured only if it is usual. -/
theorem IsGlob.usual_of_head {g head : List Char} (hg : IsGlob g) (hhead : head ∈ heads)
    (hstart : head <+: g) (hend : ending <:+ g)
    (hr : reading g = (.anything, head ++ '*' :: ending))
    (h : ∀ name, SourceName name → (Taken g name → Whole g name)) : Usual g := by
  have hstar := star_not_mem_heads head hhead
  have hplain : ∀ head ∈ heads, '/' ∉ head ∧ '\n' ∉ head := by decide
  obtain ⟨mid, rfl⟩ := exists_between hhead hstart hend
  -- a name with `cs` for the middle is taken, so the middle of the glob fits `cs`
  have hfits : ∀ cs, '/' ∉ cs → '\n' ∉ cs →
      Glob.Fits (fun _ => true) (mid.map Glob.itemOf) cs := by
    intro cs hslash hline
    have hsource : SourceName (String.ofList (head ++ cs ++ ending)) :=
      sourceName_append (by simp [hplain head hhead, hslash]) (by simp [hplain head hhead, hline])
    have htaken : Taken (head ++ mid ++ ending)
        (String.ofList (head ++ cs ++ ending)) :=
      (taken_of_head hhead hr _).mpr ⟨cs, hline, by rw [String.toList_ofList]⟩
    have hw := hg.whole_iff.mp (h _ hsource htaken)
    rw [String.toList_ofList, List.map_append, List.map_append, Glob.fits_append_iff] at hw
    obtain ⟨as, bs, he, ha, hb⟩ := hw
    rw [Glob.fits_map_itemOf_iff (by decide)] at hb
    obtain ⟨as₁, as₂, rfl, ha₁, ha₂⟩ := Glob.fits_append_iff.mp ha
    rw [Glob.fits_map_itemOf_iff hstar] at ha₁
    subst hb ha₁
    rwa [List.append_cancel_left (List.append_cancel_right he)]
  have hstars := Glob.bare_eq_nil_iff.mp
    (Glob.fits_nil_text_iff.mp (hfits [] List.not_mem_nil List.not_mem_nil))
  refine ⟨head, hhead, mid.length - 1, ?_⟩
  have hpos : mid.length ≠ 0 := by
    intro h₀
    have ha := hfits ['a'] (by decide) (by decide)
    rw [List.length_eq_zero_iff.mp h₀] at ha
    cases Glob.fits_nil_iff.mp ha
  rw [Nat.sub_add_cancel (Nat.pos_of_ne_zero hpos), ← hstars]

/-- A glob with one of the tails is not honoured. Its pattern asks nothing of what follows the
tail. -/
theorem IsGlob.exists_name_of_tail {g tail : List Char} (hg : IsGlob g) (htail : tail ∈ tails)
    (hend : tail <:+ g) (hr : reading g = (.anything, '*' :: tail)) :
    ∃ name, SourceName name ∧ Taken g name ∧ ¬ Whole g name := by
  have hstar := star_not_mem_tails tail htail
  have hplain : ∀ tail ∈ tails, '/' ∉ tail ∧ '\n' ∉ tail ∧ ¬ tail <:+ tail ++ ending := by decide
  obtain ⟨hslash, hline, hlast⟩ := hplain tail htail
  refine ⟨String.ofList (tail ++ ending), sourceName_append hslash hline, ?_, ?_⟩
  · rw [Taken, hr, String.toList_ofList]
    refine ⟨tail, List.prefix_append _ _, Glob.fits_star_iff.mpr ⟨[], tail, rfl, ?_, ?_⟩⟩
    · exact fun _ hn => absurd hn List.not_mem_nil
    · exact (Glob.fits_map_itemOf_iff hstar).mpr rfl
  · intro hw
    obtain ⟨front, rfl⟩ := hend
    have hfits := hg.whole_iff.mp hw
    rw [String.toList_ofList, List.map_append, Glob.fits_append_iff] at hfits
    obtain ⟨as, bs, he, -, hb⟩ := hfits
    rw [Glob.fits_map_itemOf_iff hstar] at hb
    subst hb
    exact hlast ⟨as, he.symm⟩

/-- In a glob without a pattern of its own, a star before other characters can take what its pattern
does not, which has only dots for it. -/
theorem IsGlob.exists_name_of_star {lit after : List Char} (hg : IsGlob (lit ++ '*' :: after))
    (hr : reading (lit ++ '*' :: after) = (.dots, lit ++ '*' :: after)) (hlit : '*' ∉ lit)
    (hne : Glob.bare after ≠ [])
    (hfits : Glob.Fits (fun _ => true) (('*' :: after).map Glob.itemOf)
      (Glob.bare after ++ ending)) :
    ∃ name, SourceName name ∧ Whole (lit ++ '*' :: after) name ∧ ¬ Taken (lit ++ '*' :: after) name := by
  obtain ⟨y, ys, hy⟩ := List.exists_cons_of_ne_nil hne
  obtain ⟨x, hxy, hdot, hx⟩ : ∃ x, x ≠ y ∧ x ≠ '.' ∧ x ≠ '/' ∧ x ≠ '\n' := by
    by_cases ha : y = 'a'
    · exact ⟨'b', by rw [ha]; decide, by decide⟩
    · exact ⟨'a', Ne.symm ha, by decide⟩
  have hplain : ∀ c, c ≠ x → c ∉ lit ++ '*' :: after → c ∉ lit ++ x :: Glob.bare after := by
    intro c hcx hc
    simp only [List.mem_append, List.mem_cons, not_or] at hc ⊢
    exact ⟨hc.1, hcx, fun hb => hc.2.2 (List.mem_of_mem_filter hb)⟩
  refine ⟨String.ofList (lit ++ x :: Glob.bare after ++ ending), sourceName_append ?_ ?_, ?_, ?_⟩
  · exact hplain _ hx.1.symm (hg.not_mem (by decide) (by decide))
  · exact hplain _ hx.2.symm (hg.not_mem (by decide) (by decide))
  · rw [hg.whole_iff, String.toList_ofList, List.append_assoc, Glob.fits_literal_append_iff hlit]
    exact ⟨_, rfl, Glob.fits_star_cons_iff.mpr (.inr ⟨rfl, hfits⟩)⟩
  · rintro ⟨start, hstart, hs⟩
    rw [hr, Glob.fits_literal_append_iff hlit] at hs
    obtain ⟨rest, rfl, hrest⟩ := hs
    have hbare : Glob.bare ('*' :: after) = y :: ys := hy
    obtain ⟨c, cs, rfl, hc⟩ := hrest.head_eq hbare
    rw [String.toList_ofList, List.append_assoc, List.prefix_append_right_inj, List.cons_append,
      List.cons_prefix_cons] at hstart
    rcases hc with hc | hc
    · exact hdot (hstart.1 ▸ beq_iff_eq.mp hc)
    · exact hxy (hstart.1.symm.trans hc)

/-- A glob without a pattern of its own is honoured only if all its stars are at its end. -/
theorem IsGlob.leading_of_dots {g : List Char} (hg : IsGlob g) (hr : reading g = (.dots, g))
    (h : ∀ name, SourceName name → (Taken g name ↔ Whole g name)) : Leading g := by
  have hsub : ∀ c, c ∉ g → c ∉ Glob.bare g := fun c hc hb => hc (List.mem_of_mem_filter hb)
  -- the pattern takes the glob without its stars, whatever follows it
  have hsource : SourceName (String.ofList (Glob.bare g ++ ending)) :=
    sourceName_append (hsub _ (hg.not_mem (by decide) (by decide)))
      (hsub _ (hg.not_mem (by decide) (by decide)))
  have htaken : Taken g (String.ofList (Glob.bare g ++ ending)) := by
    rw [Taken, hr, String.toList_ofList]
    exact ⟨Glob.bare g, List.prefix_append _ _, Glob.fits_bare _ g⟩
  have hfits := hg.whole_iff.mp ((h _ hsource).mp htaken)
  rw [String.toList_ofList] at hfits
  have hstar : '*' ∈ g := by
    by_contra hn
    rw [Glob.fits_map_itemOf_iff hn, Glob.bare_of_not_mem hn] at hfits
    exact absurd hfits (by simp [ending])
  obtain ⟨lit, after, rfl, hlit⟩ := List.eq_append_cons_of_mem hstar
  have hbare : Glob.bare (lit ++ '*' :: after) = lit ++ Glob.bare after := by
    rw [Glob.bare, List.filter_append, ← Glob.bare, Glob.bare_of_not_mem hlit]
    rfl
  rw [hbare, List.append_assoc, Glob.fits_literal_append_iff hlit] at hfits
  obtain ⟨rest, he, hrest⟩ := hfits
  rw [← List.append_cancel_left he] at hrest
  have hstars : Glob.bare after = [] := by
    by_contra hne
    obtain ⟨name, hname, hwhole, hnot⟩ := hg.exists_name_of_star hr hlit hne hrest
    exact hnot ((h name hname).mpr hwhole)
  refine ⟨lit, after.length, hlit, ?_⟩
  rw [List.replicate_succ, ← Glob.bare_eq_nil_iff.mp hstars]

/-- A star takes line breaks, and the patterns do not. -/
theorem IsGlob.exists_name_of_usual {g : List Char} (hg : IsGlob g) (h : Usual g) :
    ∃ name, Path.IsName name ∧ IsSource name ∧ Whole g name ∧ ¬ Taken g name := by
  obtain ⟨head, hhead, k, rfl⟩ := h
  have hslash : ∀ head ∈ heads, '/' ∉ head ++ '\n' :: ending := by decide
  have hsource : IsSource (String.ofList (head ++ '\n' :: ending)) := by
    rw [IsSource, String.toList_ofList]
    exact ⟨head ++ ['\n'], by simp⟩
  refine ⟨_, isName_of_isSource hsource (hslash head hhead), hsource, ?_, ?_⟩
  · rw [hg.whole_iff, String.toList_ofList,
      Glob.fits_around_iff (star_not_mem_heads head hhead) (by decide)]
    exact ⟨['\n'], by simp, fun _ _ => rfl⟩
  · rw [taken_of_head hhead (reading_of_usual hhead k), String.toList_ofList]
    rintro ⟨mid, hmid, hp⟩
    rw [List.append_assoc, List.prefix_append_right_inj] at hp
    cases mid with
    | nil => exact absurd hp (by decide)
    | cons c mid =>
      rw [List.cons_append, List.cons_prefix_cons] at hp
      exact hmid (by simp [hp.1])

/-- The globs that are honoured for the names of source files on one line. -/
theorem IsGlob.agrees_iff {g : List Char} (hg : IsGlob g) :
    (∀ name, SourceName name → (Taken g name ↔ Whole g name)) ↔ Leading g ∨ Usual g := by
  constructor
  · intro h
    rcases reading_cases g with ⟨head, hhead, hstart, hend, hr⟩ | ⟨tail, htail, hend, hr⟩ | ⟨-, hr⟩
    · exact .inr (hg.usual_of_head hhead hstart hend hr fun name hname => (h name hname).mp)
    · obtain ⟨name, hname, htaken, hnot⟩ := hg.exists_name_of_tail htail hend hr
      exact absurd ((h name hname).mp htaken) hnot
    · exact .inl (hg.leading_of_dots hr h)
  · rintro (h | h) name hname
    · exact hg.agrees_of_leading h name
    · exact hg.agrees_of_usual h hname.source hname.line

/-- The globs that are honoured for the names of all source files. -/
theorem IsGlob.agrees_on_source_iff {g : List Char} (hg : IsGlob g) :
    (∀ name, Path.IsName name → IsSource name → (Taken g name ↔ Whole g name)) ↔ Leading g := by
  constructor
  · intro h
    refine (hg.agrees_iff.mp fun name hname => h name hname.isName hname.source).resolve_right ?_
    intro husual
    obtain ⟨name, hname, hsource, hwhole, hnot⟩ := hg.exists_name_of_usual husual
    exact hnot ((h name hname hsource).mpr hwhole)
  · intro h name _ _
    exact hg.agrees_of_leading h name

/-! ## The settings of a project -/

/-- Globs are kept as their patterns, each of them once. -/
theorem ofIni_single {gs : List (List Char)} (hgs : ∀ g ∈ gs, IsGlob g) :
    Settings.ofIni (.single "pytest" "python_files" (String.ofList (join [' '] gs))) =
      .ok ⟨some (gs.map pattern).eraseDups, none⟩ := by
  generalize hvalue : String.ofList (join [' '] gs) = value
  have hlist : value.toList = join [' '] gs := by rw [← hvalue, String.toList_ofList]
  have hpercent : '%' ∉ value.toList := by
    rw [hlist, join_eq_intercalate]
    intro h
    rcases eq_or_exists_of_mem_intercalate h with h | ⟨g, hg, hc⟩
    · exact absurd h (by decide)
    · exact (hgs g hg).not_mem (by decide) (by decide) hc
  have hraw : (Ini.single "pytest" "python_files" value).raw? "pytest" "python_files" =
      some value := rfl
  have hpaths : (Ini.single "pytest" "python_files" value).get? "pytest" "testpaths" =
      .ok none := rfl
  have hwords : words value.toList = gs := by
    rw [hlist]
    exact words_join (fun g hg => (hgs g hg).ne_nil) fun g hg => (hgs g hg).not_blank
  rw [Settings.ofIni, Ini.get?_of_raw? hraw hpercent, hpaths, ← hwords]
  rfl

/-- The settings that a file with globs gives. -/
theorem settings_of_settingsText {d : Disk} {dir : Path} {gs : List (List Char)}
    (hgs : ∀ g ∈ gs, IsGlob g)
    (h : d.bytes (settingsFile dir) = .ok (encode (Ini.settingsText gs))) :
    settings d dir = .ok ⟨some (gs.map pattern).eraseDups, none⟩ := by
  have hexists : d.exists? (settingsFile dir) = .ok true := by
    rw [Disk.exists?, Disk.holds, Disk.bytes_eq_ok_iff.mp h]
  have hini := Ini.ofBytes_settingsText (settingsFile dir).toString
    (fun g hg => (hgs g hg).ne_nil) fun g hg => (hgs g hg).not_blank
  rw [settings, hexists]
  simp only [Ini.ofFile, h, hini]
  exact ofIni_single hgs

/-- What counts as a test under the patterns of some globs. -/
theorem isTest_patterns {gs : List (List Char)} (hgs : ∀ g ∈ gs, IsGlob g) (file : Path) :
    ∃ test, isTest (some (gs.map pattern).eraseDups) file = .ok test ∧
      (test = true ↔ ∃ g ∈ gs, Taken g file.name) := by
  have hmem : ∀ p, p ∈ (gs.map pattern).eraseDups ↔ ∃ g ∈ gs, pattern g = p := by simp
  have hanswer : ∀ p ∈ (gs.map pattern).eraseDups, ∃ b, Regex.test p file.name = .ok b := by
    intro p hp
    obtain ⟨g, hg, rfl⟩ := (hmem p).mp hp
    exact ((hgs g hg).test_pattern file.name).imp fun _ hb => hb.1
  obtain ⟨test, htest, hiff⟩ := anyMatches_eq_ok hanswer
  refine ⟨test, htest, hiff.trans ?_⟩
  constructor
  · rintro ⟨p, hp, hb⟩
    obtain ⟨g, hg, rfl⟩ := (hmem p).mp hp
    obtain ⟨b, hb', hb''⟩ := (hgs g hg).test_pattern file.name
    exact ⟨g, hg, hb''.mp (Except.ok.inj (hb'.symm.trans hb))⟩
  · rintro ⟨g, hg, ht⟩
    obtain ⟨b, hb', hb''⟩ := (hgs g hg).test_pattern file.name
    exact ⟨pattern g, (hmem _).mpr ⟨g, hg, rfl⟩, hb'.trans (congrArg _ (hb''.mpr ht))⟩

/-- The file counts as a test exactly if its name matches one of the globs as a whole. -/
def Honoured (patterns : Option (List String)) (gs : List (List Char)) (file : Path) : Prop :=
  isTest patterns file = .ok (gs.any fun g => (Glob.parseFrom 0 g).accepts file.name.toList)

/-- Globs are honoured for a file if their patterns take what they match. -/
theorem honoured_patterns_iff {gs : List (List Char)} (hgs : ∀ g ∈ gs, IsGlob g) (file : Path) :
    Honoured (some (gs.map pattern).eraseDups) gs file ↔
      ((∃ g ∈ gs, Taken g file.name) ↔ ∃ g ∈ gs, Whole g file.name) := by
  obtain ⟨test, htest, hiff⟩ := isTest_patterns hgs file
  rw [Honoured, htest, Except.ok.injEq, Bool.eq_iff_iff, hiff, List.any_eq_true]
  rfl

/-- Globs that are honoured one by one are honoured together. -/
theorem honoured_of_agrees {gs : List (List Char)} (hgs : ∀ g ∈ gs, IsGlob g) {file : Path}
    (h : ∀ g ∈ gs, (Taken g file.name ↔ Whole g file.name)) :
    Honoured (some (gs.map pattern).eraseDups) gs file :=
  (honoured_patterns_iff hgs file).mpr
    (exists_congr fun g => and_congr_right fun hg => h g hg)

/-- A property of file names, as one of files. -/
theorem forall_name_iff {p : String → Prop} : (∀ file : Path, p file.name) ↔ ∀ name, p name :=
  ⟨fun h name => h ⟨.here, [name]⟩, fun h file => h file.name⟩

/-- **When globs of test files are honoured.** Every file gets an answer: it counts as a test exactly
if a start of its name matches the glob that one of the patterns was written for. So the globs are
honoured for a file exactly if this comes to the same as a match of the whole name. Globs with all
stars at the end are honoured for every file, and with them those for the usual heads for all names
of source files without line breaks; a single glob of any other form is not. -/
theorem honoured_iff {d : Disk} {dir : Path} {gs : List (List Char)} (hgs : ∀ g ∈ gs, IsGlob g)
    (h : d.bytes (settingsFile dir) = .ok (encode (Ini.settingsText gs))) :
    ∃ st, settings d dir = .ok st ∧
      (∀ file, ∃ test, isTest st.patterns file = .ok test ∧
        (test = true ↔ ∃ g ∈ gs, Taken g file.name)) ∧
      (∀ file, Honoured st.patterns gs file ↔
        ((∃ g ∈ gs, Taken g file.name) ↔ ∃ g ∈ gs, Whole g file.name)) ∧
      ((∀ g ∈ gs, Leading g) → ∀ file, Honoured st.patterns gs file) ∧
      ((∀ g ∈ gs, Leading g ∨ Usual g) →
        ∀ file : Path, SourceName file.name → Honoured st.patterns gs file) ∧
      ∀ g, gs = [g] →
        ((∀ file : Path, Path.IsName file.name → IsSource file.name →
          Honoured st.patterns gs file) ↔ Leading g) ∧
        ((∀ file : Path, SourceName file.name → Honoured st.patterns gs file) ↔
          Leading g ∨ Usual g) := by
  refine ⟨_, settings_of_settingsText hgs h, isTest_patterns hgs, honoured_patterns_iff hgs, ?_, ?_,
    ?_⟩
  · intro hall file
    exact honoured_of_agrees hgs fun g hg => (hgs g hg).agrees_of_leading (hall g hg) _
  · intro hall file hname
    exact honoured_of_agrees hgs fun g hg => (hgs g hg).agrees_iff.mpr (hall g hg) _ hname
  · rintro g rfl
    have hg := hgs g List.mem_cons_self
    simp only [honoured_patterns_iff hgs, List.mem_singleton, exists_eq_left]
    exact ⟨(forall_name_iff (p := fun n => Path.IsName n → IsSource n → (Taken g n ↔ Whole g n))).trans
      hg.agrees_on_source_iff, forall_name_iff.trans hg.agrees_iff⟩

/-- Globs of both honoured forms, in the settings of a project. -/
def sampleGlobs : List (List Char) := ["check_*".toList, "test_*.py".toList]

def sampleDisk (gs : List (List Char)) : Disk :=
  .ofTexts ["home"] [(["home", "p", "pytest.ini"], Ini.settingsText gs)]

theorem bytes_sampleDisk (gs : List (List Char)) :
    (sampleDisk gs).bytes (settingsFile (.ofString "p")) = .ok (encode (Ini.settingsText gs)) := by
  rfl

/-- Both globs are honoured for names of source files without line breaks. -/
theorem honoured_sampleGlobs :
    (∀ g ∈ sampleGlobs, IsGlob g) ∧
      (sampleDisk sampleGlobs).bytes (settingsFile (.ofString "p")) =
        .ok (encode (Ini.settingsText sampleGlobs)) ∧
      ∃ st, settings (sampleDisk sampleGlobs) (.ofString "p") = .ok st ∧
        ∀ file : Path, SourceName file.name → Honoured st.patterns sampleGlobs file := by
  have hgs : ∀ g ∈ sampleGlobs, IsGlob g := by decide
  refine ⟨hgs, bytes_sampleDisk _, ?_⟩
  obtain ⟨st, hst, -, -, -, husual, -⟩ := honoured_iff hgs (bytes_sampleDisk _)
  refine ⟨st, hst, husual (List.forall_mem_cons.mpr ⟨?_, List.forall_mem_singleton.mpr ?_⟩)⟩
  · exact .inl ⟨"check_".toList, 0, by decide, rfl⟩
  · exact .inr ⟨"test_".toList, by decide, 0, rfl⟩

/-- **Globs of test files are not always honoured.** A star inside a glob without a pattern of its own
stands for dots only. -/
theorem not_forall_honoured :
    ¬ ∀ (d : Disk) (dir : Path) (gs : List (List Char)) (st : Settings) (file : Path),
      (∀ g ∈ gs, IsGlob g) →
      d.bytes (settingsFile dir) = .ok (encode (Ini.settingsText gs)) →
      settings d dir = .ok st → SourceName file.name → Honoured st.patterns gs file := by
  intro h
  have hgs : ∀ g ∈ ["check_*.py".toList], IsGlob g := by decide
  have hfile := h _ _ _ _ ⟨.here, ["check_a.py"]⟩ hgs (bytes_sampleDisk _)
    (settings_of_settingsText hgs (bytes_sampleDisk _)) ⟨by decide, by decide, by decide⟩
  unfold Honoured at hfile
  exact absurd hfile (by decide +kernel)

end Codebook.TestNaming
