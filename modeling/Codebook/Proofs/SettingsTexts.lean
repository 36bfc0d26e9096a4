import Mathlib
import Codebook.Ini.File
import Codebook.Proofs.EncodedTexts
import Codebook.Proofs.TextParts

/-!
# A settings file that names test files

`settingsText` writes a settings file whose only option lists globs of test files, and `ofBytes_settingsText`
says what is read from it, for every list of globs: the section `pytest` with the globs, separated by
blanks, as the value of the option. `words_join` takes the value apart again.
-/

namespace Codebook

namespace Text

/-! ## Lines and words -/

/-- Line feeds stay as they are. -/
theorem unifyNewlines_of_not_mem {cs : List Char} (h : '\r' ∉ cs) : unifyNewlines cs = cs := by
  induction cs with
  | nil => rfl
  | cons c cs ih =>
    rw [List.mem_cons, not_or] at h
    rw [unifyNewlines, ih h.2]
    · rintro cs rfl
      exact absurd rfl h.1
    · exact Ne.symm h.1

/-- A line goes up to the first line feed, which belongs to it. -/
theorem keptLines_append {as : List Char} (h : '\n' ∉ as) (line rest : List Char) :
    keptLines line (as ++ '\n' :: rest) = (line.reverse ++ as ++ ['\n']) :: keptLines [] rest := by
  induction as generalizing line with
  | nil => simp [keptLines]
  | cons a as ih =>
    rw [List.mem_cons, not_or] at h
    rw [List.cons_append, keptLines, ih h.2]
    · simp
    · exact Ne.symm h.1

/-- Characters that are not blank belong to the word. -/
theorem wordsFrom_append {as : List Char} (h : ∀ c ∈ as, isBlank c = false)
    (word rest : List Char) : wordsFrom word (as ++ rest) = wordsFrom (as.reverse ++ word) rest := by
  induction as generalizing word with
  | nil => rfl
  | cons a as ih =>
    rw [List.forall_mem_cons] at h
    rw [List.cons_append, wordsFrom, h.1, if_neg Bool.false_ne_true, ih h.2]
    simp

theorem join_cons_cons (sep w w' : List Char) (ws : List (List Char)) :
    join sep (w :: w' :: ws) = w ++ sep ++ join sep (w' :: ws) := rfl

/-- Words that are joined by blanks are found again. -/
theorem words_join {ws : List (List Char)} (hne : ∀ w ∈ ws, w ≠ [])
    (hblank : ∀ w ∈ ws, ∀ c ∈ w, isBlank c = false) : words (join [' '] ws) = ws := by
  induction ws with
  | nil => rfl
  | cons w ws ih =>
    rw [List.forall_mem_cons] at hne hblank
    have hword : (w.reverse ++ []).isEmpty = false := by simpa using hne.1
    cases ws with
    | nil =>
      have h := wordsFrom_append hblank.1 [] []
      rw [List.append_nil] at h
      rw [join, words, h, wordsFrom, hword]
      simp
    | cons w' ws =>
      have hspace : isBlank ' ' = true := by decide
      rw [join_cons_cons, words, List.append_assoc, wordsFrom_append hblank.1,
        List.singleton_append, wordsFrom, hword, hspace, ← words, ih hne.2 hblank.2]
      simp

/-- Words make a text that is not empty. -/
theorem join_ne_nil {ws : List (List Char)} (hws : ws ≠ []) (hne : ∀ w ∈ ws, w ≠ []) :
    join [' '] ws ≠ [] := by
  obtain ⟨w, ws, rfl⟩ := List.exists_cons_of_ne_nil hws
  have hw : w ≠ [] := hne w List.mem_cons_self
  cases ws with
  | nil => exact hw
  | cons w' ws => simp [join_cons_cons]

/-- Joined words neither start nor end with a blank. -/
theorem strip_join {ws : List (List Char)} (hne : ∀ w ∈ ws, w ≠ [])
    (hblank : ∀ w ∈ ws, ∀ c ∈ w, isBlank c = false) :
    strip (join [' '] ws) = join [' '] ws := by
  rw [strip_eq_self_iff]
  induction ws with
  | nil => simp [join]
  | cons w ws ih =>
    rw [List.forall_mem_cons] at hne hblank
    cases ws with
    | nil =>
      exact ⟨fun c hc => hblank.1 c (List.mem_of_mem_head? hc),
        fun c hc => hblank.1 c (List.mem_of_mem_getLast? hc)⟩
    | cons w' ws =>
      have hjoin := join_ne_nil (List.cons_ne_nil w' ws) hne.2
      constructor
      · intro c hc
        rw [join_cons_cons, List.append_assoc, List.head?_append_of_ne_nil _ hne.1] at hc
        exact hblank.1 c (List.mem_of_mem_head? hc)
      · intro c hc
        rw [join_cons_cons, List.getLast?_append_of_ne_nil _ hjoin] at hc
        exact (ih hne.2 hblank.2).2 c hc

/-- Joining is the usual one. -/
theorem join_eq_intercalate (sep : List Char) (ws : List (List Char)) :
    join sep ws = sep.intercalate ws := by
  fun_induction join sep ws with
  | case1 => rfl
  | case2 w => simp
  | case3 w ws hne ih => rw [ih, List.intercalate_cons_of_ne_nil (by simpa using hne)]

end Text

namespace Ini

open Text

/-! ## Reading the file -/

/-- The settings of a file with one option in one section. -/
def single (name option value : String) : Ini := ⟨[], [(name, [(option, value)])]⟩

/-- A value without a percent sign stands for itself. -/
theorem expandFrom_of_not_mem (value? : String → Except Error String)
    (inner : List Char → Except Error (List Char)) {cs : List Char} (h : '%' ∉ cs) :
    expandFrom value? inner 0 cs = .ok cs := by
  induction cs with
  | nil => rfl
  | cons c cs ih =>
    rw [List.mem_cons, not_or] at h
    have hc : (c != '%') = true := by simpa using Ne.symm h.1
    simp only [expandFrom, hc, if_true, ih h.2]
    rfl

/-- A value without a percent sign is taken as it is. -/
theorem get?_of_raw? {ini : Ini} {name option value : String}
    (h : ini.raw? name option = some value) (hvalue : '%' ∉ value.toList) :
    ini.get? name option = .ok (some value) := by
  rw [get?, h]
  simp only [maxDepth, expand, expandFrom_of_not_mem _ _ hvalue]
  simp [Except.map]

/-- A settings file that lists globs of test files. -/
def settingsText (gs : List (List Char)) : String :=
  String.ofList ("[pytest]\npython_files = ".toList ++ join [' '] gs ++ ['\n'])

/-- The text of the settings, as characters. -/
theorem toList_settingsText (gs : List (List Char)) :
    (settingsText gs).toList = "[pytest]\npython_files = ".toList ++ join [' '] gs ++ ['\n'] :=
  String.toList_ofList

/-- An encoded text is read line by line. -/
theorem linesOf_encode {s : String} (h : '\r' ∉ s.toList) :
    linesOf (encode s) = (keptLines [] s.toList, none) := by
  rw [linesOf, decodePieces_encode]
  simp only [unifyNewlines_of_not_mem h]

/-- The state after the section header. -/
theorem step_header (source : String) :
    Reader.start.step source 1 "[pytest]\n".toList =
      .ok ⟨[], [("pytest", [])], some "pytest", none, 0, []⟩ := by
  rfl

/-- An option is set by its name, a sign of equality and its value. -/
theorem assignment?_append {name : List Char} (hname : '=' ∉ name) (hname' : ':' ∉ name)
    (cs : List Char) :
    assignment? (name ++ '=' :: cs) =
      some (lower (String.ofList (stripEnd name)), strip cs) := by
  have hall : ∀ c ∈ name, (!(c == '=' || c == ':')) = true := by
    intro c hc
    have h₁ : c ≠ '=' := fun h => hname (h ▸ hc)
    have h₂ : c ≠ ':' := fun h => hname' (h ▸ hc)
    simp [h₁, h₂]
  have hstop : ∀ c ∈ ('=' :: cs).head?, (!(c == '=' || c == ':')) = false := by simp
  simp only [assignment?, dropWhile_append_eq hall hstop, takeWhile_append_eq hall hstop]

/-- The line of the option without the blanks around it. -/
theorem strip_option {value : List Char} (hvalue : strip value = value) :
    ∃ cs, strip ("python_files = ".toList ++ value ++ ['\n']) = "python_files =".toList ++ cs ∧
      strip cs = value := by
  by_cases hne : value = []
  · exact ⟨[], by rw [hne]; decide, by rw [hne]; rfl⟩
  · have hends := strip_eq_self_iff.mp hvalue
    have hstrip : strip ("python_files = ".toList ++ value) = "python_files = ".toList ++ value := by
      refine strip_eq_self_iff.mpr ⟨by simp; decide, ?_⟩
      rw [List.getLast?_append_of_ne_nil _ hne]
      exact hends.2
    have hfeed : ∀ c ∈ ['\n'], isBlank c = true := List.forall_mem_singleton.mpr (by decide)
    have hspace : ∀ c ∈ [' '], isBlank c = true := List.forall_mem_singleton.mpr (by decide)
    have hnil : ∀ c ∈ ([] : List Char), isBlank c = true := fun _ hc => absurd hc List.not_mem_nil
    refine ⟨' ' :: value, ?_, ?_⟩
    · exact strip_append hnil hfeed hstrip (by simp)
    · have h := strip_append hspace hnil hvalue hne
      rwa [List.append_nil] at h

/-- The state after the option. -/
theorem step_option (source : String) {value : List Char} (hvalue : strip value = value) :
    Reader.step source ⟨[], [("pytest", [])], some "pytest", none, 0, []⟩ 2
        ("python_files = ".toList ++ value ++ ['\n']) =
      .ok ⟨[], [("pytest", [("python_files", [value])])], some "pytest", some "python_files", 0,
        []⟩ := by
  obtain ⟨cs, hline, hcs⟩ := strip_option hvalue
  have hassign : assignment? ("python_files =".toList ++ cs) = some ("python_files", value) := by
    have h := @assignment?_append "python_files ".toList (by decide) (by decide) cs
    rw [hcs] at h
    exact h
  have hindent : (("python_files = ".toList ++ value ++ ['\n']).takeWhile isBlank).length = 0 := by
    rfl
  unfold Reader.step
  rw [hline, hindent]
  simp only [hassign]
  rfl

/-- What is read from a settings file that lists globs. -/
theorem ofBytes_settingsText (source : String) {gs : List (List Char)} (hne : ∀ g ∈ gs, g ≠ [])
    (hblank : ∀ g ∈ gs, ∀ c ∈ g, isBlank c = false) :
    ofBytes source (encode (settingsText gs)) =
      .ok (single "pytest" "python_files" (String.ofList (join [' '] gs))) := by
  have hvalue := strip_join hne hblank
  -- the value is on one line
  have hline : ∀ c, isBlank c = true → c ≠ ' ' → c ∉ join [' '] gs := by
    intro c hc hspace h
    rw [join_eq_intercalate] at h
    rcases eq_or_exists_of_mem_intercalate h with h | ⟨g, hg, hcg⟩
    · exact hspace h
    · rw [hblank g hg c hcg] at hc
      cases hc
  have hjoin : '\r' ∉ join [' '] gs ∧ '\n' ∉ join [' '] gs :=
    ⟨hline _ (by decide) (by decide), hline _ (by decide) (by decide)⟩
  have hreturn : '\r' ∉ (settingsText gs).toList := by
    rw [toList_settingsText, List.mem_append, List.mem_append]
    rintro ((h | h) | h)
    · exact absurd h (by decide)
    · exact hjoin.1 h
    · exact absurd h (by decide)
  have hlines : keptLines [] (settingsText gs).toList =
      ["[pytest]\n".toList, "python_files = ".toList ++ join [' '] gs ++ ['\n']] := by
    have hfeed : '\n' ∉ "python_files = ".toList ++ join [' '] gs := by
      rw [List.mem_append, not_or]
      exact ⟨by decide, hjoin.2⟩
    have h := keptLines_append hfeed [] []
    rw [toList_settingsText]
    exact (@keptLines_append "[pytest]".toList (by decide) [] _).trans (congrArg _ h)
  have hend : stripEnd (join [' '] gs) = join [' '] gs :=
    stripEnd_eq_self_iff.mpr (strip_eq_self_iff.mp hvalue).2
  rw [ofBytes, linesOf_encode hreturn, hlines]
  simp only [parse, Reader.steps, step_header, step_option source hvalue]
  simp [finish, join, hend, single]

end Ini

/-- The bytes at the end of a path are those of a file there. -/
theorem Disk.bytes_eq_ok_iff {d : Disk} {p : Path} {bs : List UInt8} :
    d.bytes p = .ok bs ↔ d.get p = .ok (.file bs) := by
  unfold Disk.bytes
  cases d.get p with
  | error e => simp
  | ok t => cases t <;> simp

end Codebook
