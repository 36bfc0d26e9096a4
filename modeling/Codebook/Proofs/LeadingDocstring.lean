import Mathlib
import Codebook.Proofs.BothDescriptions
import Codebook.Proofs.TextParts

/-!
# Blank lines before a docstring

When a file is run and described, its docstring is the text between the first three quotes and the next
ones, as far as this can be seen from its characters. Blank lines at the start are passed over to find the
first quotes, but the text is taken from the third character of the file on.

* `exists_leadingText?`: what is found in a text with blank lines before the quotes. Of the quotes that are
  not passed over some are left in it, so that it differs from what is written by the number of quotes.
* `docstring_of_live`: what is found becomes the docstring.
* `docstring_kept_iff`: when blank lines do not change the docstring.
* `not_forall_docstring_kept`: one blank line puts a quote in front of it.
-/

namespace Codebook

namespace Outline

open Text

/-- Three quotes. -/
def quotes : List Char := ['"', '"', '"']

/-- Behind blanks and three quotes, the text from the third character to the next three quotes is
taken. -/
theorem leadingText?_blanks {w : List Char} (hw : ∀ c ∈ w, isBlank c = true) (cs : List Char) :
    leadingText? (w ++ (quotes ++ cs)) =
      (cutAt? quotes ((w ++ (quotes ++ cs)).drop 3)).map fun r => String.ofList (strip r.1) := by
  have hstart : startsWith quotes (stripStart (w ++ (quotes ++ cs))) = true := by
    rw [stripStart, dropWhile_append_eq hw (by simp [quotes, isBlank]), startsWith_iff]
    exact List.prefix_append _ _
  unfold leadingText?
  exact if_pos hstart

section Quoted

variable {body : List Char} (hbody : ¬ quotes <:+: body) (hlast : '"' ∉ body.getLast?)
include hbody hlast

/-- The closing quotes start nowhere in the docstring. -/
theorem startsNowhere_body (rest : List Char) : StartsNowhere quotes body rest := by
  refine startsNowhere_of_last hbody (fun c hc hmem => hlast ?_) rest
  obtain rfl : c = '"' := by simpa [quotes] using hmem
  exact hc

/-- Where one or two quotes are left before the text, what is found has another number of quotes. -/
theorem exists_cutAt?_quotes {front : List Char} (hfront : front = ['"'] ∨ front = ['"', '"'])
    (hne : body ≠ []) (rest : List Char) :
    ∃ shown after, cutAt? quotes (front ++ (body ++ (quotes ++ rest))) = some (shown, after) ∧
      shown.count '"' ≠ body.count '"' := by
  by_cases hq : quotes <+: front ++ (body ++ (quotes ++ rest))
  · -- the text itself starts with a quote, and nothing is found
    obtain ⟨after, hafter⟩ := hq
    refine ⟨[], after, by rw [← hafter, cutAt?_self_append], ?_⟩
    obtain ⟨c, cs, rfl⟩ := List.exists_cons_of_ne_nil hne
    have hc : c = '"' := by
      rcases hfront with rfl | rfl
      · simp only [quotes, List.cons_append, List.nil_append, List.cons.injEq, true_and] at hafter
        exact hafter.1.symm
      · simp only [quotes, List.cons_append, List.nil_append, List.cons.injEq, true_and] at hafter
        exact hafter.1.symm
    simp [hc]
  · have hpass : StartsNowhere quotes (front ++ body) (quotes ++ rest) := by
      refine startsNowhere_append.mpr ⟨?_, startsNowhere_body hbody hlast _⟩
      rcases hfront with rfl | rfl
      · exact ⟨hq, trivial⟩
      · refine ⟨hq, fun h => hq ?_, trivial⟩
        simp only [quotes, List.cons_append, List.nil_append, List.cons_prefix_cons, true_and] at h ⊢
        exact (List.prefix_append ['"'] ['"']).trans h
    refine ⟨front ++ body, rest, ?_, ?_⟩
    · rw [← List.append_assoc, cutAt?_append hpass, cutAt?_self_append]
      simp
    · have hcount : 0 < front.count '"' := by
        rcases hfront with rfl | rfl <;> decide
      rw [List.count_append]
      omega

/-- So it is what is written between the quotes only if this is nothing. -/
theorem exists_cutAt?_front {front : List Char} (hfront : front = ['"'] ∨ front = ['"', '"'])
    (rest : List Char) :
    ∃ shown after, cutAt? quotes (front ++ (body ++ (quotes ++ rest))) = some (shown, after) ∧
      (strip shown = strip body ↔ body = []) := by
  by_cases hne : body = []
  · subst hne
    refine ⟨[], front ++ rest, ?_, by simp⟩
    rw [← cutAt?_self_append]
    rcases hfront with rfl | rfl <;> rfl
  · obtain ⟨shown, after, hcut, hcount⟩ := exists_cutAt?_quotes hbody hlast hfront hne rest
    refine ⟨shown, after, hcut, iff_of_false (fun heq => hcount ?_) hne⟩
    rw [← count_strip rfl shown, heq, count_strip rfl]

/-- What is found in a text with line feeds before the quotes. It is what is written between the quotes
exactly if there are no line feeds, or nothing is written, or there are three line feeds at least and only
blanks are written. -/
theorem exists_leadingText? {w : List Char} (hw : ∀ c ∈ w, c = '\n') (rest : List Char) :
    ∃ shown, leadingText? (w ++ (quotes ++ (body ++ (quotes ++ rest)))) =
        some (String.ofList (strip shown)) ∧
      (strip shown = strip body ↔
        w = [] ∨ body = [] ∨ 3 ≤ w.length ∧ ∀ c ∈ body, isBlank c = true) := by
  have hblank : ∀ c ∈ w, isBlank c = true := by
    intro c hc
    rw [hw c hc]
    rfl
  rw [leadingText?_blanks hblank]
  -- one or two line feeds leave as many quotes before the text
  rcases w with _ | ⟨a, _ | ⟨b, _ | ⟨c, w⟩⟩⟩
  · refine ⟨body, ?_, by simp⟩
    change (cutAt? quotes (body ++ (quotes ++ rest))).map _ = _
    rw [cutAt?_append (startsNowhere_body hbody hlast _), cutAt?_self_append]
    simp
  · obtain ⟨shown, after, hcut, hiff⟩ := exists_cutAt?_front hbody hlast (.inl rfl) rest
    refine ⟨shown, ?_, by simp [hiff]⟩
    change (cutAt? quotes (['"'] ++ (body ++ (quotes ++ rest)))).map _ = _
    rw [hcut]
    rfl
  · obtain ⟨shown, after, hcut, hiff⟩ := exists_cutAt?_front hbody hlast (.inr rfl) rest
    refine ⟨shown, ?_, by simp [hiff]⟩
    change (cutAt? quotes (['"', '"'] ++ (body ++ (quotes ++ rest)))).map _ = _
    rw [hcut]
    rfl
  · -- the first quotes are found again, with nothing but line feeds before them
    have hquote : '"' ∉ w := by
      intro hmem
      cases hw '"' (by simp [hmem])
    refine ⟨w, ?_, ?_⟩
    · change (cutAt? quotes (w ++ (quotes ++ (body ++ (quotes ++ rest))))).map _ = _
      have hpass : StartsNowhere quotes w (quotes ++ (body ++ (quotes ++ rest))) :=
        startsNowhere_of_not_mem hquote _
      rw [cutAt?_append hpass, cutAt?_self_append]
      simp
    · have hnil : strip w = [] := strip_eq_nil_iff.mpr fun x hx => hblank x (by simp [hx])
      rw [hnil, eq_comm, strip_eq_nil_iff]
      constructor
      · intro h
        exact .inr (.inr ⟨by simp, h⟩)
      · rintro (h | rfl | ⟨-, h⟩)
        · cases h
        · simp
        · exact h

end Quoted

end Outline

namespace Inspection

open Live Outline Text

/-- What the first characters of a file suggest is the docstring of its record. -/
theorem docstring_of_live {d : Disk} {path : Path} {code title : String} {s t : Store} {r : ModuleRecord}
    (hlive : (live d path code).run.run s = (.ok r, t)) (hlead : leadingText? code.toList = some title) :
    r.docstring = some title := by
  unfold live at hlive
  obtain ⟨m, _, -, hrun⟩ := Run.of_bind_ok hlive
  exact (describeModule_given hrun).2 title hlead

/-- A file that starts with `w`, followed by a text between three quotes. -/
def quotedText (w body rest : List Char) : String :=
  String.ofList (w ++ (quotes ++ (body ++ (quotes ++ rest))))

/-- **When blank lines do not change the docstring.** A file has some line feeds at its start, then a text
between three quotes that does not hold three quotes and does not end with one. If it has been run and
described, the docstring of its record is this text without the blanks around it exactly if there are no
line feeds, or there is nothing between the quotes, or there are at least three line feeds and only blanks
between the quotes. -/
theorem docstring_kept_iff {d : Disk} {path : Path} {w body rest : List Char}
    (hr : d.read path = .ok (quotedText w body rest)) (hw : ∀ c ∈ w, c = '\n')
    (hbody : ¬ quotes <:+: body) (hlast : '"' ∉ body.getLast?) {s t : Store} {r : ModuleRecord}
    (hlive : (live d path (quotedText w body rest)).run.run s = (.ok r, t)) :
    (inspect true d path s).1 = .ok r ∧
      (r.docstring = some (String.ofList (strip body)) ↔
        w = [] ∨ body = [] ∨ 3 ≤ w.length ∧ ∀ c ∈ body, isBlank c = true) := by
  refine ⟨by rw [inspect_of_live hr hlive], ?_⟩
  obtain ⟨shown, hshown, hiff⟩ := exists_leadingText? hbody hlast hw rest
  rw [docstring_of_live hlive (by rwa [quotedText, String.toList_ofList]), ← hiff, Option.some.injEq,
    String.ofList_inj]

/-- Three line feeds, and a docstring that is blank. -/
def keptStart : List Char × List Char := (['\n', '\n', '\n'], [' '])

/-- One line feed, and a docstring that holds a quote. -/
def changedStart : List Char × List Char := (['\n'], ['a', '"', 'b'])

/-- A file that starts with the given line feeds and docstring. -/
def startText (start : List Char × List Char) : String :=
  quotedText start.1 start.2 ['\n']

/-- Both texts are read and described. -/
theorem exists_live_startText (start : List Char × List Char)
    (hstart : start ∈ [keptStart, changedStart]) :
    (onlyDisk (startText start)).read onlyPath = .ok (startText start) ∧ ∃ r t,
      (live (onlyDisk (startText start)) onlyPath (startText start)).run.run .empty = (.ok r, t) := by
  have hread_live : ∀ start ∈ [keptStart, changedStart],
      (onlyDisk (startText start)).read onlyPath = .ok (startText start) ∧
        (liveOnly? (startText start)).isSome = true := by
    decide +kernel
  obtain ⟨hread, hlive⟩ := hread_live start hstart
  obtain ⟨r, hr⟩ := Option.isSome_iff_exists.mp hlive
  exact ⟨hread, r, exists_run hr⟩

/-- A docstring of blanks is reported as no text after three line feeds. -/
theorem docstring_kept_keptStart :
    ∃ r t, (onlyDisk (startText keptStart)).read onlyPath = .ok (startText keptStart) ∧
      (live (onlyDisk (startText keptStart)) onlyPath (startText keptStart)).run.run .empty =
        (.ok r, t) ∧
      (inspect true (onlyDisk (startText keptStart)) onlyPath .empty).1 = .ok r ∧
      r.docstring = some "" := by
  obtain ⟨hread, r, t, hlive⟩ := exists_live_startText keptStart List.mem_cons_self
  obtain ⟨hinspect, hiff⟩ :=
    docstring_kept_iff hread (by simp [keptStart]) (by decide) (by decide) hlive
  have hblank : ∀ c ∈ keptStart.2, isBlank c = true := by simp [keptStart]; decide
  exact ⟨r, t, hread, hlive, hinspect, hiff.mpr (.inr (.inr ⟨Nat.le_refl 3, hblank⟩))⟩

/-- **A blank line can change the docstring.** -/
theorem not_forall_docstring_kept :
    ¬ ∀ (d : Disk) (path : Path) (w body rest : List Char) (s t : Store) (r : ModuleRecord),
      d.read path = .ok (quotedText w body rest) → (∀ c ∈ w, c = '\n') → ¬ quotes <:+: body →
      '"' ∉ body.getLast? → (live d path (quotedText w body rest)).run.run s = (.ok r, t) →
      r.docstring = some (String.ofList (strip body)) := by
  intro h
  obtain ⟨hread, r, t, hlive⟩ :=
    exists_live_startText changedStart (List.mem_cons_of_mem _ List.mem_cons_self)
  have hdoc := h _ _ _ _ _ _ t r hread (by simp [changedStart]) (by decide) (by decide) hlive
  have hlead : leadingText? (startText changedStart).toList = some "\"a\"b" := by decide +kernel
  rw [docstring_of_live hlive hlead] at hdoc
  exact absurd hdoc (by decide)

end Inspection

end Codebook
