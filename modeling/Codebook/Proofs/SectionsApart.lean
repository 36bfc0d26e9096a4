import Mathlib
import Codebook.Proofs.EntryLines

/-!
# Sections and what stands around them

The section of the parameters ends at the first `Returns:` or `Raises:`, and the section about the
result starts at the first `Returns:`. Neither header can start in a text and be completed by the
other, since both have their only `R` in front.

* `paramSection?_returns`, `returnSection?_returns`: the two sides of the first `Returns:`.
* `parse?_returns_iff`: what stands behind it has no effect on the parameters, and what stands before
  it none on the result. For the parameters this needs their header to stand before it.
* `description_section`, `leftOver_section`: other headers do not end the section of the parameters,
  so that they and the text behind them go on with the last description.
* `lastDescription_iff`: the last parameter keeps its own description behind the two headers that end
  the section. Behind the others it does so only if the text says the same of it again, in an entry.
-/

namespace Codebook.Docstring

open Text

/-! ## Before and behind the result -/

section Returns

variable {before : List Char} (behind : List Char)

/-- The section about the result has nothing of what stands before its header. -/
theorem returnSection?_returns (hbefore : ¬ "Returns:".toList <:+: before) :
    returnSection? (before ++ ("Returns:".toList ++ behind)) =
      returnSection? ("Returns:".toList ++ behind) := by
  have hpass : StartsNowhere "Returns:".toList before ("Returns:".toList ++ behind) :=
    startsNowhere_of_tail hbefore (by simp)
  rw [returnSection?, returnSection?, cutAt?_append hpass, cutAt?_self_append]
  rfl

/-- The section of the parameters has nothing of what stands behind a `Returns:`. -/
theorem paramSection?_returns (hargs : "Args:".toList <:+: before) :
    paramSection? (before ++ ("Returns:".toList ++ behind)) = paramSection? before := by
  have hstop : ∀ cs, taken (cs ++ ("Returns:".toList ++ behind)) = taken cs :=
    uptoAny_append_eq (by simp) (uptoAny_eq_nil (by simp) behind)
  obtain ⟨r, hr⟩ := Option.ne_none_iff_exists'.mp fun hnone => cutAt?_eq_none_iff.mp hnone hargs
  rw [paramSection?_eq, paramSection?_eq, cutAt?_append_of_some hr, hr, Option.map_some,
    Option.map_some, hstop]

end Returns

/-- **The parameters and the result are read apart.** In a text with a `Returns:`, the parameters are
those of the text before the first one and the result is that of the text from there on, whatever
stands on the other side, exactly if the header of the parameters stands before it. -/
theorem parse?_returns_iff {p : String} (hp : ¬ "Returns:".toList <:+: p.toList) :
    "Args:".toList <:+: p.toList ↔ ∀ t : String, parse? (some (p ++ "Returns:" ++ t)) =
      ⟨(parse? (some p)).params, (parse? (some ("Returns:" ++ t))).returns⟩ := by
  have htext : ∀ t : String, (p ++ "Returns:" ++ t).toList =
      p.toList ++ ("Returns:".toList ++ t.toList) := by
    simp
  constructor
  · intro hargs t
    have hreturns : ("Returns:" ++ t).toList = "Returns:".toList ++ t.toList := by simp
    simp only [parse?, parse, htext, hreturns, paramSection?_returns _ hargs,
      returnSection?_returns _ hp]
  · intro h
    by_contra hargs
    have hnone : (parse? (some p)).params = [] := by
      rw [parse?, parse, paramSection?_eq, cutAt?_eq_none_iff.mpr hargs, Option.map_none]
    -- a section of the parameters that stands behind the result is read there
    have hpass : StartsNowhere "Args:".toList (p.toList ++ "Returns:".toList)
        ("Args:".toList ++ ['\n', 'a', ' ', '(', 'b', ')', ':', ' ', 'c']) := by
      rw [startsNowhere_append]
      refine ⟨startsNowhere_of_tail hargs (by simp), ?_⟩
      rw [show "Args:".toList = 'A' :: "rgs:".toList by simp]
      exact startsNowhere_of_not_mem (by simp) _
    have hsection := paramSection?_args hpass
    have hbehind : (p ++ "Returns:" ++ "Args:\na (b): c").toList = p.toList ++ "Returns:".toList ++
        ("Args:".toList ++ ['\n', 'a', ' ', '(', 'b', ')', ':', ' ', 'c']) := by
      simp
    rw [← hbehind] at hsection
    have hread := description?_parse? hsection "a"
    rw [h, description?, hnone] at hread
    exact absurd hread (by decide)

/-- Headers of both sections on both sides of the first `Returns:`. -/
theorem parse?_returns_sample :
    let p := "Adds.\n\nArgs:\n    a (int): x\n\nRaises:\n    b (int): Return\n    "
    let t := " Raise\nint: Args: c (int): y\nReturns: z"
    ¬ "Returns:".toList <:+: p.toList ∧ "Args:".toList <:+: p.toList ∧
      parse? (some (p ++ "Returns:" ++ t)) =
        ⟨(parse? (some p)).params, (parse? (some ("Returns:" ++ t))).returns⟩ := by
  intro p t
  have hreturns : ¬ "Returns:".toList <:+: p.toList := by decide
  have hargs : "Args:".toList <:+: p.toList := by decide
  exact ⟨hreturns, hargs, (parse?_returns_iff hreturns).mp hargs t⟩

/-! ## Behind the parameters -/

/-- The headers of sections that may follow that of the parameters. -/
def sectionHeaders : List String :=
  ["Returns:", "Raises:", "Yields:", "Example:", "Examples:", "Note:"]

/-- The headers that do not end the section of the parameters are a word and a colon, and the word has
nothing that an ending header could start with. -/
theorem header_eq {header : String} (h : header ∈ sectionHeaders)
    (hends : header ∉ ["Returns:", "Raises:"]) :
    ∃ word, header.toList = word ++ [':'] ∧ (∀ c ∈ word, isWord c = true) ∧ 'R' ∉ word := by
  have hall : ∀ header ∈ sectionHeaders, header ∉ ["Returns:", "Raises:"] →
      header.toList = header.toList.dropLast ++ [':'] ∧
        header.toList.dropLast.all isWord = true ∧ 'R' ∉ header.toList.dropLast := by
    decide
  obtain ⟨hcolon, hword, hfirst⟩ := hall header h hends
  exact ⟨header.toList.dropLast, hcolon, List.all_eq_true.mp hword, hfirst⟩

section Word

variable {word : List Char} (hword : ∀ c ∈ word, isWord c = true)

include hword

/-- A blank line and a word with a colon go on with the description before them, and so does what
follows. -/
theorem description_section (rest : List Char) :
    description ('\n' :: '\n' :: (word ++ ':' :: rest)) =
      ('\n' :: '\n' :: (word ++ ':' :: (description rest).1), (description rest).2) := by
  have hhead : head? (word ++ ':' :: rest) = none := by
    apply head?_eq_none
    rw [dropWhile_append_eq hword (by simp; decide)]
    simp [isBlank]
  have hstart : stripStart (word ++ ':' :: rest) = word ++ ':' :: rest := by
    rw [stripStart_eq_self_iff]
    cases word with
    | nil => simp [isBlank]
    | cons c word => simpa using isBlank_of_isWord (hword c List.mem_cons_self)
  have hskip : stripStart ('\n' :: (word ++ ':' :: rest)) = word ++ ':' :: rest := by
    rw [stripStart, List.dropWhile_cons_of_pos (by decide), ← stripStart, hstart]
  have hline : '\n' ∉ word ++ [':'] := by
    intro hmem
    have hchar := hword '\n' (by simpa using hmem)
    rw [isWord_of_isBlank (by decide)] at hchar
    cases hchar
  have hpass := description_append_of_line hline rest
  rw [List.append_assoc, List.singleton_append] at hpass
  simp only [description, hskip, hstart, hhead, hpass]
  simp

omit hword in
/-- The section of the parameters takes such a header and what it takes of the text behind. -/
theorem leftOver_section (hfirst : 'R' ∉ word) (body : List Char) :
    leftOver ('\n' :: '\n' :: (word ++ ':' :: body)) =
      '\n' :: '\n' :: (word ++ ':' :: leftOver body) := by
  have happend : ∀ cs, '\n' :: '\n' :: (word ++ ':' :: cs) = ('\n' :: '\n' :: (word ++ [':'])) ++ cs := by
    simp
  have hpass : ∀ p ∈ ["Returns:", "Raises:"].map String.toList,
      StartsNowhere p ('\n' :: '\n' :: (word ++ [':'])) body := by
    rw [List.forall_mem_map]
    intro p hp
    obtain ⟨⟨q, hq⟩, -⟩ := header_cases hp
    rw [hq]
    exact startsNowhere_of_not_mem (by simpa using hfirst) body
  have hlast : ∀ c ∈ ('\n' :: '\n' :: (word ++ [':'])).getLast?, isBlank c = false := by
    rw [← List.cons_append, ← List.cons_append, List.getLast?_concat]
    simp [isBlank]
  rw [happend body, happend (leftOver body), leftOver, taken, uptoAny_append hpass, ← taken,
    stripEnd_append_of_last hlast, ← leftOver]

end Word

/-- An ending header leaves nothing over. -/
theorem leftOver_of_ends {header : String} (h : header ∈ ["Returns:", "Raises:"]) (body : List Char) :
    leftOver ('\n' :: '\n' :: (header.toList ++ body)) = [] := by
  obtain ⟨gap, hgap, htaken⟩ := EndsSection.gap (List.Subset.refl _) (.inr ⟨header, h, body, rfl⟩)
  rw [leftOver, taken, htaken, stripEnd_eq_nil hgap]

/-- A docstring with a section of parameters and another section behind it. -/
def sectioned (summary : String) (es : List Entry) (header body : String) : String :=
  summary ++ argsText es ++ "\n\n" ++ header ++ body

/-- The entries that are read in the body of a section whose header does not end that of the
parameters: those from the first line on that starts with one. -/
def strayEntries (body : String) : List Entry :=
  entries (description (leftOver body.toList)).2

/-- The section about parameters starts after the first `Args:`. -/
theorem paramSection?_sectioned {summary : String} (h : ¬ "Args:".toList <:+: summary.toList)
    (es : List Entry) (header body : String) :
    paramSection? (sectioned summary es header body).toList = some (strip (taken
      (es.flatMap Entry.line ++ '\n' :: '\n' :: (header.toList ++ body.toList)))) := by
  rw [← paramSection?_args (startsNowhere_of_tail h (by simp))]
  simp [sectioned, argsText, Entry.toList_written, List.flatMap_map]

/-- **A later section leaks into the last parameter unless its header ends the section.** Behind
`Returns:` and `Raises:` the last parameter has its own description, whatever the body is. Behind the
other headers it has not, unless the body says the same of it in an entry of its own. -/
theorem lastDescription_iff {summary header : String} {es : List Entry} {e : Entry}
    (hsummary : ¬ "Args:".toList <:+: summary.toList) (hes : ∀ x ∈ es, x.Described) (he : e.Described)
    (hheader : header ∈ sectionHeaders) (body : String) :
    (parse? (some (sectioned summary (es ++ [e]) header body))).description? e.name =
        some e.description ↔
      header ∈ ["Returns:", "Raises:"] ∨ said? (strayEntries body) e.name = some e.description := by
  have hread := entries_taken hes he
    (show ∀ c ∈ ('\n' :: '\n' :: (header.toList ++ body.toList)).head?, c = '\n' by simp)
  rw [description?_parse? (paramSection?_sectioned hsummary _ _ _), hread, List.append_cons]
  simp only [said?_append]
  rw [show said? [e.extended _] e.name = some _ from said?_singleton (e.extended _), Option.some_or]
  by_cases hends : header ∈ ["Returns:", "Raises:"]
  · rw [leftOver_of_ends hends]
    simp only [hends, true_or, iff_true]
    exact congrArg some he.1.description_extended
  · obtain ⟨word, hcolon, hword, hfirst⟩ := header_eq hheader hends
    have htail : header.toList ++ body.toList = word ++ ':' :: body.toList := by simp [hcolon]
    rw [htail, leftOver_section hfirst, description_section hword, ← strayEntries]
    -- the colon of the header is one more than the description has
    have hlonger : (e.extended ('\n' :: '\n' :: (word ++ ':' ::
        (description (leftOver body.toList)).1))).description ≠ e.description := by
      intro hsame
      have hcount := congrArg (fun s => s.toList.count ':') hsame
      simp [Entry.extended, count_strip (show isBlank ':' = false by decide)] at hcount
    cases said? (strayEntries body) e.name with
    | none => simpa [hends] using hlonger
    | some d => simp [hends]

/-- A parameter behind another one, with a header in front that has something like it in its body, and
with one that is made up for by its body. -/
theorem lastDescription_lineEntries :
    let summary := "Adds.\n\n"
    let e : Entry := ⟨"c", "int", "x"⟩
    ¬ "Args:".toList <:+: summary.toList ∧ (∀ x ∈ lineEntries, x.Described) ∧ e.Described ∧
      (parse? (some (sectioned summary (lineEntries ++ [e]) "Raises:" "\n    c (int): y"))).description?
        e.name = some e.description ∧
      (parse? (some (sectioned summary (lineEntries ++ [e]) "Note:" "\n    c (int): x"))).description?
        e.name = some e.description := by
  intro summary e
  have hsummary : ¬ "Args:".toList <:+: summary.toList := by decide
  have hes : ∀ x ∈ lineEntries, x.Described := by decide
  have he : e.Described := by decide
  refine ⟨hsummary, hes, he, (lastDescription_iff hsummary hes he (by decide) _).mpr (.inl (by decide)),
    (lastDescription_iff hsummary hes he (by decide) _).mpr (.inr ?_)⟩
  decide

/-- The section about what is yielded is taken for part of the last description. -/
theorem not_forall_lastDescription : ¬ ∀ (summary header body : String) (es : List Entry) (e : Entry),
    ¬ "Args:".toList <:+: summary.toList → (∀ x ∈ es, x.Described) → e.Described →
      header ∈ sectionHeaders →
        (parse? (some (sectioned summary (es ++ [e]) header body))).description? e.name =
          some e.description := by
  intro h
  have hread : (parse? (some (sectioned "" [⟨"a", "int", "x"⟩] "Yields:" "\n    int: y"))).description?
      "a" = some "x\n\nYields:\n    int: y" := by
    decide
  have hkept := h "" "Yields:" "\n    int: y" [] ⟨"a", "int", "x"⟩ (by decide) (by simp)
    (by decide) (by decide)
  exact absurd (hread.symm.trans hkept) (by decide)

end Codebook.Docstring
