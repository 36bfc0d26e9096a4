import Mathlib
import Codebook.Ignore
import Codebook.Proofs.FileTree
import Codebook.Proofs.SettingsTexts

/-!
# Patterns and the lines of an ignore file

An ignore file is cut at every kind of line end, and each line loses the blanks around it. Line ends are
blanks themselves, and a carriage return before a line feed makes one line end of two. What the lines
give (`patternsIn`) does not depend on this, because an empty line gives nothing: after a line end of any
kind, reading starts afresh (`patternsIn_linesFrom_boundary`).

* `isPattern_of_mem`: what each pattern is like (`IsPattern`), for every text.
* `patternsIn_intercalate`: such patterns, one on each line, are read back.
* `WholeLines.patternsIn_append`: whole lines and the text after them give their patterns independently.
* `patterns_normal_form`: what this means for the file of a directory.
-/

namespace Codebook

namespace Text

/-! ## Lines -/

/-- There is no line end in the text. -/
def IsOneLine (cs : List Char) : Prop :=
  ∀ c ∈ cs, isLineBoundary c = false

theorem isOneLine_nil : IsOneLine [] := fun _ hc => absurd hc List.not_mem_nil

theorem IsOneLine.reverse {cs : List Char} (h : IsOneLine cs) : IsOneLine cs.reverse := fun c hc =>
  h c (List.mem_reverse.mp hc)

/-- A character that ends no line belongs to the line. -/
theorem linesFrom_cons {c : Char} (hc : isLineBoundary c = false) (line cs : List Char) :
    linesFrom line (c :: cs) = linesFrom (c :: line) cs := by
  rw [linesFrom, hc]
  · rfl
  · rintro _ rfl
    cases hc

/-- Characters of one line belong to the line. -/
theorem linesFrom_append {as : List Char} (has : IsOneLine as) (line rest : List Char) :
    linesFrom line (as ++ rest) = linesFrom (as.reverse ++ line) rest := by
  induction as generalizing line with
  | nil => rfl
  | cons a as ih =>
    obtain ⟨ha, has⟩ := List.forall_mem_cons.mp has
    rw [List.cons_append, linesFrom_cons ha, ih has]
    simp

/-- No line goes over a boundary. -/
theorem isOneLine_of_mem_linesFrom {line cs : List Char} (hline : IsOneLine line) :
    ∀ l ∈ linesFrom line cs, IsOneLine l := by
  fun_induction linesFrom line cs with
  | case1 => simp
  | case2 => simpa using hline.reverse
  | case3 line cs ih => exact List.forall_mem_cons.mpr ⟨hline.reverse, ih isOneLine_nil⟩
  | case4 line c cs _ _ ih => exact List.forall_mem_cons.mpr ⟨hline.reverse, ih isOneLine_nil⟩
  | case5 line c cs _ hc ih => exact ih (List.forall_mem_cons.mpr ⟨by simpa using hc, hline⟩)

/-- A boundary ends the line. -/
theorem linesFrom_boundary {c : Char} (hc : isLineBoundary c = true) (hne : c ≠ '\r')
    (line cs : List Char) : linesFrom line (c :: cs) = line.reverse :: lines cs := by
  rw [linesFrom, hc]
  · rfl
  · rintro _ rfl
    exact absurd rfl hne

/-- Reading a file turns carriage returns into line feeds, which leaves the lines as they are. -/
theorem linesFrom_unifyNewlines (line cs : List Char) :
    linesFrom line (unifyNewlines cs) = linesFrom line cs := by
  fun_induction linesFrom line cs with
  | case1 line h => rw [unifyNewlines, linesFrom, if_pos h]
  | case2 line h => rw [unifyNewlines, linesFrom, if_neg h]
  | case3 line cs ih => rw [unifyNewlines, linesFrom_boundary (by decide) (by decide), lines, ih]
  | case4 line c cs h hc ih =>
    by_cases hr : c = '\r'
    · subst hr
      rw [unifyNewlines, linesFrom_boundary (by decide) (by decide), lines, ih]
      exact fun _ he => h _ rfl he
    · rw [unifyNewlines, linesFrom_boundary hc hr, lines, ih]
      · exact fun _ he => absurd he hr
      · exact hr
  | case5 line c cs _ hc ih =>
    have hne : c ≠ '\r' := by
      rintro rfl
      exact hc rfl
    rw [unifyNewlines, linesFrom_cons (by simpa using hc), ih]
    · exact fun _ he => absurd he hne
    · exact hne

end Text

namespace Ignore

open Text

/-! ## What lines give -/

/-- The patterns of some lines. -/
def patternsIn (ls : List (List Char)) : List (List Char) :=
  (ls.map strip).filter fun l => !l.isEmpty && !startsWith ['#'] l

/-- The patterns of a text are those of its lines. -/
theorem patterns_eq (text : String) :
    patterns text = (patternsIn (lines text.toList)).map String.ofList := rfl

/-- The patterns of lines are those of each line. -/
theorem patternsIn_cons (l : List Char) (ls : List (List Char)) :
    patternsIn (l :: ls) = patternsIn [l] ++ patternsIn ls := by
  simp only [patternsIn, ← List.filter_append, ← List.map_append, List.singleton_append]

/-- After a line end, reading starts afresh. If the line end is cut in two, the rest of it is an empty
line. -/
theorem patternsIn_linesFrom_boundary {c : Char} (hc : isLineBoundary c = true) (line cs : List Char) :
    patternsIn (linesFrom line (c :: cs)) = patternsIn [line.reverse] ++ patternsIn (lines cs) := by
  rw [← patternsIn_cons]
  by_cases hr : c = '\r'
  · subst hr
    rcases cs with _ | ⟨d, cs⟩
    · rfl
    · by_cases hd : d = '\n'
      · subst hd
        rw [linesFrom, lines, linesFrom_boundary (by decide) (by decide)]
        rfl
      · rw [linesFrom]
        · rfl
        · rintro _ - he
          exact hd (List.cons.inj he).1
  · rw [linesFrom_boundary hc hr]

/-- A line with its line end. -/
theorem patternsIn_line {l : List Char} (hl : IsOneLine l) {c : Char} (hc : isLineBoundary c = true)
    (rest : List Char) :
    patternsIn (lines (l ++ c :: rest)) = patternsIn [l] ++ patternsIn (lines rest) := by
  rw [lines, linesFrom_append hl, patternsIn_linesFrom_boundary hc]
  simp

/-- The text consists of whole lines, each with its line end, for which `p` holds. A carriage return and a
line feed are two line ends here, with an empty line between them. -/
inductive WholeLines (p : List Char → Prop) : List Char → Prop
  | nil : WholeLines p []
  | line {l rest : List Char} {c : Char} (oneLine : IsOneLine l) (holds : p l)
      (boundary : isLineBoundary c = true) (more : WholeLines p rest) : WholeLines p (l ++ c :: rest)

/-- Whole lines keep their patterns, whatever follows them. -/
theorem WholeLines.patternsIn_append {p : List Char → Prop} {cs : List Char} (h : WholeLines p cs)
    (after : List Char) :
    patternsIn (lines (cs ++ after)) = patternsIn (lines cs) ++ patternsIn (lines after) := by
  induction h with
  | nil => rfl
  | line oneLine _ boundary _ ih =>
    rw [List.append_assoc, List.cons_append, patternsIn_line oneLine boundary,
      patternsIn_line oneLine boundary, ih, List.append_assoc]

/-! ## What patterns are like -/

/-- A text on one line that is not empty, neither starts nor ends with a blank, and is no comment. -/
structure IsPattern (p : List Char) : Prop where
  ne_nil : p ≠ []
  head : ∀ c ∈ p.head?, isBlank c = false ∧ c ≠ '#'
  last : ∀ c ∈ p.getLast?, isBlank c = false
  oneLine : IsOneLine p

/-- Nothing is stripped but at the end. -/
theorem stripEnd_isPrefix (cs : List Char) : stripEnd cs <+: cs := by
  rw [stripEnd, ← List.reverse_suffix, List.reverse_reverse]
  exact List.dropWhile_suffix isBlank

/-- Every pattern that is read is one. -/
theorem isPattern_of_mem {cs p : List Char} (h : p ∈ patternsIn (lines cs)) : IsPattern p := by
  obtain ⟨hmem, hkept⟩ := List.mem_filter.mp h
  obtain ⟨l, hl, rfl⟩ := List.mem_map.mp hmem
  simp only [Bool.and_eq_true, Bool.not_eq_true', List.isEmpty_eq_false_iff] at hkept
  obtain ⟨rest, hrest⟩ := stripEnd_isPrefix (stripStart l)
  refine ⟨hkept.1, fun c hc => ⟨?_, ?_⟩, last_not_blank_stripEnd _, fun c hc => ?_⟩
  · have hnot := List.head?_dropWhile_not isBlank l
    rw [← stripStart, ← hrest, ← strip, List.head?_append_of_ne_nil _ hkept.1,
      Option.mem_def.mp hc] at hnot
    simpa using hnot
  · rintro rfl
    obtain ⟨cs, hcs⟩ := List.head?_eq_some_iff.mp hc
    rw [startsWith_iff.mpr ⟨cs, hcs.symm⟩] at hkept
    cases hkept.2
  · have hstart : stripStart l <:+ l := List.dropWhile_suffix isBlank
    refine isOneLine_of_mem_linesFrom isOneLine_nil l hl c (hstart.subset ?_)
    rw [← hrest]
    exact List.mem_append_left rest hc

/-- A line that is a pattern gives that pattern. -/
theorem IsPattern.patternsIn_singleton {p : List Char} (h : IsPattern p) : patternsIn [p] = [p] := by
  have hstrip : strip p = p := strip_eq_self_iff.mpr ⟨fun c hc => (h.head c hc).1, h.last⟩
  have hcomment : ¬ startsWith ['#'] p = true := by
    intro hs
    obtain ⟨cs, rfl⟩ := startsWith_iff.mp hs
    exact (h.head '#' rfl).2 rfl
  simp [patternsIn, hstrip, hcomment, h.ne_nil]

/-- Patterns that are written one on each line are read back. -/
theorem patternsIn_intercalate {ps : List (List Char)} (h : ∀ p ∈ ps, IsPattern p) :
    patternsIn (lines (['\n'].intercalate ps)) = ps := by
  induction ps with
  | nil => rfl
  | cons p ps ih =>
    obtain ⟨hp, hps⟩ := List.forall_mem_cons.mp h
    cases ps with
    | nil =>
      have hline : lines p = [p] := by
        have hone := linesFrom_append hp.oneLine [] []
        rwa [List.append_nil, List.append_nil, linesFrom, List.reverse_reverse, if_neg] at hone
        simpa using hp.ne_nil
      rw [List.intercalate_singleton, hline, hp.patternsIn_singleton]
    | cons q ps =>
      rw [List.intercalate_cons_cons, List.append_assoc, List.singleton_append,
        patternsIn_line hp.oneLine (by decide), hp.patternsIn_singleton, ih hps]
      rfl

/-! ## Lines without a pattern -/

/-- A line of blanks, or a comment with any blanks before it. -/
def IsIdle (l : List Char) : Prop :=
  (∀ c ∈ l, isBlank c = true) ∨
    ∃ blanks rest, l = blanks ++ '#' :: rest ∧ ∀ c ∈ blanks, isBlank c = true

/-- An idle line gives no pattern. -/
theorem patternsIn_of_isIdle {l : List Char} (h : IsIdle l) : patternsIn [l] = [] := by
  rcases h with hblank | ⟨blanks, rest, rfl, hblanks⟩
  · simp [patternsIn, strip_eq_nil_iff.mpr hblank]
  · have hstart : stripStart (blanks ++ '#' :: rest) = ['#'] ++ rest :=
      dropWhile_append_eq hblanks (by simp; decide)
    have hcomment : startsWith ['#'] (strip (blanks ++ '#' :: rest)) = true := by
      rw [strip, hstart, stripEnd_append_of_last (by simp; decide), startsWith_iff]
      exact List.prefix_append _ _
    simp [patternsIn, hcomment]

/-- Idle lines give no pattern. -/
theorem patternsIn_of_wholeLines {cs : List Char} (h : WholeLines IsIdle cs) :
    patternsIn (lines cs) = [] := by
  induction h with
  | nil => rfl
  | line oneLine idle boundary _ ih =>
    rw [patternsIn_line oneLine boundary, patternsIn_of_isIdle idle, ih, List.append_nil]

/-! ## Ignore files -/

/-- The directory has an ignore file, and this is its text. -/
def HasFile (d : Disk) (dir : Path) (text : String) : Prop :=
  ∃ bytes, d.bytes (dir.child ".gitignore") = .ok bytes ∧ decode bytes = .ok text

/-- The patterns of a directory are those of its file. -/
theorem ofDirectory_of_hasFile {d : Disk} {dir : Path} {text : String} (h : HasFile d dir text) :
    ofDirectory d dir = .ok (patterns text) := by
  obtain ⟨bytes, hbytes, htext⟩ := h
  have hexists : d.exists? (dir.child ".gitignore") = .ok true := by
    rw [Disk.exists?, Disk.holds, Disk.bytes_eq_ok_iff.mp hbytes]
  have hread : d.read (dir.child ".gitignore") = .ok (String.ofList (unifyNewlines text.toList)) := by
    simp [Disk.read, hbytes, htext, bind, Except.bind]
  rw [ofDirectory, hexists]
  simp only [hread, Except.map]
  rw [patterns_eq, patterns_eq, String.toList_ofList, lines, linesFrom_unifyNewlines, lines]

/-- **Patterns are read in normal form.** Each pattern of an ignore file is a text on one line, not empty,
without blanks around it, and no comment. The lists of such texts are exactly those that are read back
when they are written one on each line, as what was read from any text is. Lines of blanks and comments
between the lines of a text change nothing. -/
theorem patterns_normal_form (text : String) :
    (∀ d dir, HasFile d dir text → ofDirectory d dir = .ok (patterns text)) ∧
      (∀ p ∈ patterns text, IsPattern p.toList) ∧
      patterns ("\n".intercalate (patterns text)) = patterns text ∧
      (∀ ps, patterns ("\n".intercalate ps) = ps ↔ ∀ p ∈ ps, IsPattern p.toList) ∧
      ∀ before inserted after : String, text = before ++ after →
        WholeLines (fun _ => True) before.toList → WholeLines IsIdle inserted.toList →
        patterns (before ++ inserted ++ after) = patterns text := by
  have hpatterns : ∀ text, ∀ p ∈ patterns text, IsPattern p.toList := by
    intro text p hp
    obtain ⟨cs, hcs, rfl⟩ := List.mem_map.mp hp
    rw [String.toList_ofList]
    exact isPattern_of_mem hcs
  have hback : ∀ ps, (∀ p ∈ ps, IsPattern p.toList) → patterns ("\n".intercalate ps) = ps := by
    intro ps hps
    have hread := patternsIn_intercalate (List.forall_mem_map.mpr hps)
    rw [patterns_eq, String.toList_intercalate]
    exact (congrArg _ hread).trans (by simp)
  refine ⟨fun d dir => ofDirectory_of_hasFile, hpatterns text, hback _ (hpatterns text),
    fun ps => ⟨fun hps => hps ▸ hpatterns _, hback ps⟩, ?_⟩
  rintro before inserted after rfl hbefore hinserted
  simp only [patterns_eq, String.toList_append, List.append_assoc]
  rw [hbefore.patternsIn_append, hbefore.patternsIn_append, hinserted.patternsIn_append,
    patternsIn_of_wholeLines hinserted, List.nil_append]

/-- A comment after a line that ends with a vertical tab. -/
theorem patterns_commented :
    ∃ d dir, HasFile d dir "a\x0b b" ∧ ofDirectory d dir = .ok ["a", "b"] ∧
      patterns ("a\x0b" ++ " #c\n" ++ " b") = ["a", "b"] := by
  obtain ⟨hread, -, -, -, hinsert⟩ := patterns_normal_form "a\x0b b"
  have hfile : HasFile (.ofTexts [] [([".gitignore"], "a\x0b b")]) ⟨.here, []⟩ "a\x0b b" :=
    ⟨_, rfl, decode_encode _⟩
  have hpatterns : patterns "a\x0b b" = ["a", "b"] := by decide
  refine ⟨_, _, hfile, hpatterns ▸ hread _ _ hfile, ?_⟩
  rw [hinsert "a\x0b" " #c\n" " b" rfl, hpatterns]
  · exact .line (l := ['a']) (by simp [IsOneLine]; decide) trivial (by decide) .nil
  · exact .line (l := [' ', '#', 'c']) (by simp [IsOneLine]; decide)
      (.inr ⟨[' '], ['c'], rfl, by simp; decide⟩) (by decide) .nil

end Ignore

end Codebook
