import Mathlib
import Codebook.Proofs.Docstrings

/-!
# Entries on one line each

The description of an entry starts behind all blanks that follow the colon, line ends included, and
goes on until a line starts with the head of another entry. So the text behind an entry decides how
much of it is taken for the description, and an entry without a description takes the next line.

* `said?`, `description?_parse?`: of several entries of one name the last one counts.
* `Entry.OneLine.entryAt?_body`: what is read of an entry with a description, whatever follows it.
* `entries_lines`, `entries_taken`: the run over the lines of a section, with any text behind
  them.
* `description_ne_empty`: no entry that is read has an empty description.
* `described_iff`: entries are read with their own descriptions exactly if none of these is empty.
-/

namespace Codebook.Docstring

open Text

/-! ## What entries say about a name -/

/-- What some entries say about a name. The last one of that name counts. -/
def said? (es : List Entry) (name : String) : Option String :=
  (es.reverse.find? (·.name == name)).map (·.description)

/-- The later entries count first. -/
theorem said?_append (as bs : List Entry) (name : String) :
    said? (as ++ bs) name = (said? bs name).or (said? as name) := by
  simp [said?, List.find?_append, Option.map_or]

theorem said?_singleton (e : Entry) : said? [e] e.name = some e.description := by
  simp [said?]

/-- What is said is the description of an entry. -/
theorem mem_of_said? {es : List Entry} {name description : String}
    (h : said? es name = some description) : ∃ e ∈ es, e.name = name ∧ e.description = description := by
  obtain ⟨e, he, rfl⟩ := Option.map_eq_some_iff.mp h
  exact ⟨e, List.mem_reverse.mp (List.mem_of_find?_eq_some he), eq_of_beq (List.find?_some he :), rfl⟩

/-- Among entries with different names each says what it says. -/
theorem said?_of_mem {es : List Entry} (hnames : (es.map Entry.name).Nodup) {e : Entry} (he : e ∈ es) :
    said? es e.name = some e.description := by
  obtain ⟨as, bs, rfl⟩ := List.append_of_mem he
  have hbs : said? bs e.name = none := by
    by_contra hsome
    obtain ⟨d, hd⟩ := Option.ne_none_iff_exists'.mp hsome
    obtain ⟨x, hx, hname, -⟩ := mem_of_said? hd
    rw [List.map_append, List.map_cons, List.nodup_append, List.nodup_cons] at hnames
    exact hnames.2.1.1 (hname ▸ List.mem_map_of_mem hx)
  rw [List.append_cons, said?_append, said?_append, hbs, said?_singleton]
  rfl

/-- An inserted entry is found. -/
theorem find?_insertEntry_self (es : List Entry) (e : Entry) :
    (insertEntry es e).find? (·.name == e.name) = some e := by
  by_cases hany : es.any (·.name == e.name) = true
  · rw [insertEntry, if_pos hany]
    induction es with
    | nil => cases hany
    | cons x es ih =>
      cases hx : x.name == e.name with
      | true => simp only [List.map_cons, hx, if_true, List.find?_cons, beq_self_eq_true]
      | false =>
        simp only [List.map_cons, hx, Bool.false_eq_true, if_false, List.find?_cons]
        exact ih (by simpa [hx] using hany)
  · have hnone : es.find? (·.name == e.name) = none := by
      rw [List.find?_eq_none]
      simpa using hany
    rw [insertEntry, if_neg hany, List.find?_append, hnone]
    simp

/-- Entries of other names stay. -/
theorem find?_insertEntry_of_ne (es : List Entry) {e : Entry} {name : String} (h : e.name ≠ name) :
    (insertEntry es e).find? (·.name == name) = es.find? (·.name == name) := by
  have hskip : (e.name == name) = false := by simpa using h
  have hmap : (es.map fun x => if x.name == e.name then e else x).find? (·.name == name) =
      es.find? (·.name == name) := by
    induction es with
    | nil => rfl
    | cons x es ih =>
      cases hx : x.name == e.name with
      | true =>
        have hskip' : (x.name == name) = false := eq_of_beq hx ▸ hskip
        simp only [List.map_cons, hx, if_true, List.find?_cons, hskip, hskip', ih]
      | false => simp only [List.map_cons, hx, Bool.false_eq_true, if_false, List.find?_cons, ih]
  rw [insertEntry]
  split_ifs
  · exact hmap
  · rw [List.find?_append, List.find?_singleton, hskip]
    simp

/-- The last entry of a name is kept. -/
theorem find?_foldl_insertEntry (es : List Entry) (name : String) :
    (es.foldl insertEntry []).find? (·.name == name) = es.reverse.find? (·.name == name) := by
  induction es using List.reverseRecOn with
  | nil => rfl
  | append_singleton es e ih =>
    rw [List.foldl_append, List.foldl_cons, List.foldl_nil, List.reverse_append,
      List.reverse_singleton, List.singleton_append]
    by_cases h : e.name = name
    · subst h
      rw [find?_insertEntry_self, List.find?_cons_of_pos (by simp)]
    · rw [find?_insertEntry_of_ne _ h, ih, List.find?_cons_of_neg (by simpa using h)]

/-- A docstring describes a parameter as the entries of its section do. -/
theorem description?_parse? {s : String} {cs : List Char} (h : paramSection? s.toList = some cs)
    (name : String) : (parse? (some s)).description? name = said? (entries cs) name := by
  rw [parse?, description?, parse, h]
  exact congrArg _ (find?_foldl_insertEntry (entries cs) name)

/-! ## One entry -/

/-- An entry on one line, whose description has no blanks at its ends and may be empty. -/
@[mk_iff]
structure Entry.OneLine (e : Entry) : Prop extends Entry.Delimited e where
  description_line : '\n' ∉ e.description.toList
  description_trimmed : trimmed e.description = e.description

instance (e : Entry) : Decidable e.OneLine :=
  decidable_of_iff _ (Entry.oneLine_iff e).symm

/-- An entry as it is read if `more` is taken for the end of its description. -/
def Entry.extended (e : Entry) (more : List Char) : Entry :=
  ⟨e.name, trimmed e.type, String.ofList (strip (e.description.toList ++ more))⟩

/-- Characters of one line belong to the description. -/
theorem description_append_of_line {cs : List Char} (h : '\n' ∉ cs) (rest : List Char) :
    description (cs ++ rest) = (cs ++ (description rest).1, (description rest).2) := by
  induction cs with
  | nil => rfl
  | cons c cs ih =>
    obtain ⟨hc, hcs⟩ := not_or.mp (List.mem_cons.not.mp h)
    have hne : (c == '\n') = false := by simpa using Ne.symm hc
    rw [List.cons_append, description, hne, ih hcs]
    rfl

/-- A description ends before a line with an entry. -/
theorem description_line_append {e : Entry} (h : e.Delimited) (rest : List Char) :
    description (e.line ++ rest) = ([], e.line ++ rest) := by
  obtain ⟨bs, hbs, hhead⟩ := h.isSome_head? rest
  rw [hbs, description, hhead]
  rfl

namespace Entry.OneLine

variable {e : Entry} (h : e.OneLine)

include h

/-- An entry on one line has the description it is written with. -/
theorem description_extended : (e.extended []).description = e.description := by
  rw [extended, List.append_nil]
  exact h.description_trimmed

variable (hne : e.description ≠ "")

include hne

/-- Its description is trimmed. -/
theorem isTrim_description : IsTrim e.description :=
  ⟨hne, h.description_trimmed⟩

/-- An entry with a description is read with its own name and type. How its description goes on is up
to the text behind it. -/
theorem entryAt?_body (rest : List Char) :
    entryAt? (e.body ++ rest) =
      some (e.extended (Docstring.description rest).1, (Docstring.description rest).2) := by
  have htrim := h.isTrim_description hne
  have hstart : stripStart (' ' :: (e.description.toList ++ rest)) = e.description.toList ++ rest := by
    obtain ⟨c, cs, hcs⟩ := List.exists_cons_of_ne_nil htrim.toList_ne_nil
    have hc := htrim.head_not_blank c (by simp [hcs])
    rw [hcs, stripStart, List.dropWhile_cons_of_pos (by decide)]
    simp [hc]
  rw [entryAt?, h.head?_body]
  simp only [hstart, description_append_of_line h.description_line, String.ofList_toList]
  simp [isBlank, Entry.extended, trimmed]

end Entry.OneLine

/-! ## The lines of a section -/

/-- The entry is on one line and has a description. -/
def Entry.Described (e : Entry) : Prop :=
  e.OneLine ∧ e.description ≠ ""

instance (e : Entry) : Decidable e.Described :=
  inferInstanceAs (Decidable (_ ∧ _))

/-- The line of a described entry does not end with a blank. -/
theorem Entry.Described.last_not_blank {e : Entry} (h : e.Described) (cs : List Char) :
    ∀ c ∈ (cs ++ e.line).getLast?, isBlank c = false := by
  have htrim := h.1.isTrim_description h.2
  have hline : cs ++ e.line = (cs ++ indentation ++ e.name.toList ++ [' ', '('] ++ e.type.toList ++
      [')', ':', ' ']) ++ e.description.toList := by
    simp [Entry.line, Entry.body]
  rw [hline, List.getLast?_append_of_ne_nil _ htrim.toList_ne_nil]
  exact htrim.last_not_blank

/-- Lines with described entries are read line by line. What follows the last one may add to its
description and to the entries. -/
theorem entries_lines {es : List Entry} {e : Entry} (hes : ∀ x ∈ es, x.Described) (he : e.Described)
    (rest : List Char) :
    entries (es.flatMap Entry.line ++ (e.line ++ rest)) =
      es.map (·.extended []) ++ e.extended (description rest).1 :: entries (description rest).2 := by
  -- a line is read once the blanks before its entry are passed over
  have hstep : ∀ {x : Entry}, x.Described → ∀ after, entries (x.line ++ after) =
      x.extended (description after).1 :: entries (description after).2 := by
    intro x hx after
    rw [Entry.line, List.append_assoc, entries_blanks isBlank_of_mem_indentation,
      entries_of_some (hx.1.entryAt?_body hx.2 after)]
  induction es with
  | nil => exact hstep he rest
  | cons x es ih =>
    obtain ⟨hx, hes'⟩ := List.forall_mem_cons.mp hes
    -- behind `x` stands another line, where its description ends
    have hend : description (es.flatMap Entry.line ++ (e.line ++ rest)) =
        ([], es.flatMap Entry.line ++ (e.line ++ rest)) := by
      cases es with
      | nil => exact description_line_append he.1.toDelimited rest
      | cons y es =>
        rw [List.flatMap_cons, List.append_assoc]
        exact description_line_append (hes' y List.mem_cons_self).1.toDelimited _
    rw [List.flatMap_cons, List.append_assoc, hstep hx, hend, ih hes', List.map_cons,
      List.cons_append]

/-- What the section of the parameters takes of the text behind its header. -/
def taken (cs : List Char) : List Char :=
  uptoAny (["Returns:", "Raises:"].map String.toList) cs

/-- The section about parameters is what is taken after `Args:`. -/
theorem paramSection?_eq (cs : List Char) :
    paramSection? cs = (cutAt? "Args:".toList cs).map fun r => strip (taken r.2) := rfl

/-- The first `Args:` starts the section. -/
theorem paramSection?_args {before cs : List Char}
    (h : StartsNowhere "Args:".toList before ("Args:".toList ++ cs)) :
    paramSection? (before ++ ("Args:".toList ++ cs)) = some (strip (taken cs)) := by
  rw [paramSection?_eq, cutAt?_append h, cutAt?_self_append]
  rfl

/-- What it takes of a text behind its entries, without the blanks at the end. -/
def leftOver (tail : List Char) : List Char :=
  stripEnd (taken tail)

/-- The blanks at the start of a section mean nothing for its entries. -/
theorem entries_strip (cs : List Char) : entries (strip cs) = entries (stripEnd cs) := by
  have hsplit : cs.takeWhile isBlank ++ stripStart cs = cs := List.takeWhile_append_dropWhile
  have hblank : ∀ c ∈ cs.takeWhile isBlank, isBlank c = true := fun c hc =>
    List.mem_takeWhile_imp hc
  conv_rhs => rw [← hsplit, stripEnd_append]
  split_ifs with hnil
  · rw [strip, hnil, stripEnd_eq_nil hblank]
  · rw [entries_blanks hblank, strip]

/-- The entries of a section that starts with lines of described entries. -/
theorem entries_taken {es : List Entry} {e : Entry} (hes : ∀ x ∈ es, x.Described) (he : e.Described)
    {tail : List Char} (htail : ∀ c ∈ tail.head?, c = '\n') :
    entries (strip (taken ((es ++ [e]).flatMap Entry.line ++ tail))) =
      es.map (·.extended []) ++ e.extended (description (leftOver tail)).1 ::
        entries (description (leftOver tail)).2 := by
  have hlines : (es ++ [e]).flatMap Entry.line = es.flatMap Entry.line ++ e.line := by simp
  have hpass : ∀ p ∈ ["Returns:", "Raises:"].map String.toList,
      StartsNowhere p ((es ++ [e]).flatMap Entry.line) tail := by
    rw [List.forall_mem_map]
    refine fun p hp => startsNowhere_lines (fun x hx => ?_) hp htail
    rcases List.mem_append.mp hx with hx | hx
    · exact (hes x hx).1.toDelimited
    · exact List.mem_singleton.mp hx ▸ he.1.toDelimited
  rw [taken, uptoAny_append hpass, ← taken, entries_strip, hlines,
    stripEnd_append_of_last (he.last_not_blank _), ← leftOver, List.append_assoc,
    entries_lines hes he]

/-! ## Empty descriptions -/

/-- What is left at the end of a text that does not end with a blank does not either. -/
theorem last_not_blank_of_suffix {as bs : List Char} (h : as <:+ bs)
    (hbs : ∀ c ∈ bs.getLast?, isBlank c = false) : ∀ c ∈ as.getLast?, isBlank c = false := by
  rcases eq_or_ne as [] with rfl | hne
  · simp
  · rwa [getLast?_of_suffix h hne]

/-- An entry in a text without blanks at its end is described. -/
theorem entryAt?_description_ne {cs rest : List Char} {e : Entry} (h : entryAt? cs = some (e, rest))
    (hcs : ∀ c ∈ cs.getLast?, isBlank c = false) : e.description ≠ "" := by
  obtain ⟨name, type, b, after, hhead, hb, rfl, -⟩ := entryAt?_eq_some h
  have hlast := last_not_blank_of_suffix ((List.suffix_cons _ _).trans (suffix_of_head hhead)) hcs
  -- the blank behind the colon is not the end of the text
  have hafter : after ≠ [] := by
    rintro rfl
    rw [hlast b rfl] at hb
    cases hb
  rw [List.getLast?_cons_of_ne_nil hafter] at hlast
  obtain ⟨x, xs, hx⟩ := List.exists_cons_of_ne_nil (dropWhile_ne_nil hafter hlast)
  have hxblank : isBlank x = false := by
    have hnot := List.head?_dropWhile_not isBlank after
    rw [hx] at hnot
    simpa using hnot
  have hdescription : (description (stripStart after)).1 = x :: (description xs).1 := by
    have hne : (x == '\n') = false := by
      rw [beq_eq_false_iff_ne]
      rintro rfl
      cases hxblank
    rw [stripStart, hx, description, hne]
    rfl
  intro hempty
  have hnil : strip (description (stripStart after)).1 = [] := by
    simpa using congrArg String.toList hempty
  rw [strip_eq_nil_iff, hdescription] at hnil
  rw [hnil x List.mem_cons_self] at hxblank
  cases hxblank

/-- **No entry is read with an empty description.** -/
theorem description_ne_empty {cs : List Char} (hcs : ∀ c ∈ cs.getLast?, isBlank c = false) {e : Entry}
    (he : e ∈ entries cs) : e.description ≠ "" := by
  induction hn : cs.length using Nat.strong_induction_on generalizing cs with
  | _ n ih =>
    subst hn
    rcases cs with _ | ⟨c, cs⟩
    · cases he
    · cases hentry : entryAt? (c :: cs) with
      | none =>
        rw [entries_of_none hentry] at he
        exact ih _ (Nat.lt_succ_self _) (last_not_blank_of_suffix (List.suffix_cons c cs) hcs) he rfl
      | some r =>
        obtain ⟨hsuffix, hlength⟩ := suffix_of_entry hentry
        rw [entries_of_some hentry] at he
        rcases List.mem_cons.mp he with rfl | he
        · exact entryAt?_description_ne hentry hcs
        · exact ih _ hlength (last_not_blank_of_suffix hsuffix hcs) he rfl

/-- The section of the parameters as it is written, with nothing around it. -/
def argsText (es : List Entry) : String :=
  "Args:" ++ String.join (es.map Entry.written)

/-- The section about parameters holds the lines of the entries. -/
theorem paramSection?_argsText (es : List Entry) :
    paramSection? (argsText es).toList = some (strip (taken (es.flatMap Entry.line))) := by
  have htext : (argsText es).toList = "Args:".toList ++ es.flatMap Entry.line := by
    simp [argsText, Entry.toList_written, List.flatMap_map]
  have hpass : StartsNowhere "Args:".toList [] ("Args:".toList ++ es.flatMap Entry.line) := trivial
  rw [htext]
  exact paramSection?_args hpass

/-- **A parameter without a description takes the next one.** Entries with different names, each on a
line of its own, are read with their own descriptions exactly if none of these is empty. -/
theorem described_iff {es : List Entry} (hnames : (es.map Entry.name).Nodup)
    (hes : ∀ e ∈ es, e.OneLine) :
    (∀ e ∈ es, (parse? (some (argsText es))).description? e.name = some e.description) ↔
      ∀ e ∈ es, e.description ≠ "" := by
  simp only [description?_parse? (paramSection?_argsText es)]
  constructor
  · intro h e he
    obtain ⟨x, hx, -, hdescription⟩ := mem_of_said? (h e he)
    exact hdescription ▸ description_ne_empty (last_not_blank_stripEnd _) hx
  · intro h e he
    obtain ⟨es, last, rfl⟩ := (List.eq_nil_or_concat' es).resolve_left (List.ne_nil_of_mem he)
    have hdescribed : ∀ x ∈ es ++ [last], x.Described := fun x hx => ⟨hes x hx, h x hx⟩
    have hread := entries_taken (fun x hx => hdescribed x (List.mem_append_left _ hx))
      (hdescribed last (by simp)) (show ∀ c ∈ [].head?, c = '\n' by simp)
    have hall : entries (strip (taken ((es ++ [last]).flatMap Entry.line))) =
        (es ++ [last]).map (·.extended []) := by
      rw [List.append_nil] at hread
      rw [hread, List.map_append]
      rfl
    have hsame : ((es ++ [last]).map (·.extended [])).map Entry.name = (es ++ [last]).map Entry.name :=
      List.map_map
    have hsaid := said?_of_mem (hsame ▸ hnames) (List.mem_map_of_mem (f := (·.extended [])) he)
    rw [hall, ← (hes e he).description_extended]
    exact hsaid

/-- Entries whose types and descriptions are easily taken for something else. -/
def lineEntries : List Entry :=
  [⟨"a", " int\n  b (x", "see b (int): 1"⟩, ⟨"b", "(", "Args: 2"⟩]

/-- Entries with the first description missing. -/
def bareEntries : List Entry :=
  [⟨"a", "int", ""⟩, ⟨"b", "int", "x"⟩]

/-- All entries of the sample are described as they are written. -/
theorem described_lineEntries : (lineEntries.map Entry.name).Nodup ∧ (∀ e ∈ lineEntries, e.OneLine) ∧
    ∀ e ∈ lineEntries, (parse? (some (argsText lineEntries))).description? e.name =
      some e.description := by
  have hnames : (lineEntries.map Entry.name).Nodup := by decide
  have hes : ∀ e ∈ lineEntries, e.OneLine := by decide
  exact ⟨hnames, hes, (described_iff hnames hes).mpr (by decide)⟩

/-- The entry behind one without a description is lost in it. -/
theorem not_forall_described : ¬ ∀ es : List Entry, (es.map Entry.name).Nodup →
    (∀ e ∈ es, e.OneLine) →
      ∀ e ∈ es, (parse? (some (argsText es))).description? e.name = some e.description := by
  intro h
  have hread : parse? (some (argsText bareEntries)) = ⟨[⟨"a", "int", "b (int): x"⟩], none⟩ := by
    decide
  have hb := h bareEntries (by decide) (by decide) ⟨"b", "int", "x"⟩ (by decide)
  rw [hread] at hb
  revert hb
  decide

end Codebook.Docstring
