import Mathlib
import Codebook.Docstring
import Codebook.Proofs.TextParts

/-!
# Reading a docstring back

`written` puts a docstring together from a summary, entries, a result and further text, as people
write it. Its sections are read back as they were: `parse?_written`.

An entry ends where a new line starts with the head of another one, so what has to be excluded is
that a description holds something like a head, at a line end of its own or together with the name
after it. A description of one line has no such place. A description without an opening parenthesis
has none either, because it does not end with a blank: whatever stands between one of its line ends
and the next parenthesis is more than one word (`head?_append_eq_none`).

* `head?_head`, `description_append`, `entryAt?_body`: one entry.
* `entries_of_some`, `entries_body`, `foldl_insertEntry`: the entries of a section, in order.
* `paramSection?_written`, `returnSection?_written_some`: the sections.
-/

namespace Codebook.Docstring

open Text

/-! ## The written form -/

/-- An entry on a line of its own. -/
def Entry.written (e : Entry) : String :=
  "\n    " ++ e.name ++ " (" ++ e.type ++ "): " ++ e.description

/-- The section about the result. -/
def Result.written (r : Result) : String :=
  "\n\nReturns:\n    " ++ r.type ++ ": " ++ r.description

/-- A docstring with a summary, the section of the parameters, that about the result if there is
one, and further text. -/
def written (summary : String) (es : List Entry) (r : Option Result) (tail : String) : String :=
  summary ++ "\n\nArgs:" ++ String.join (es.map Entry.written) ++
    (r.map Result.written).getD "" ++ tail

/-- The text is not empty and has no blanks at its ends. -/
@[mk_iff]
structure IsTrim (s : String) : Prop where
  ne_empty : s ≠ ""
  no_blanks : trimmed s = s

instance (s : String) : Decidable (IsTrim s) :=
  decidable_of_iff _ (isTrim_iff s).symm

/-- An entry that can be told from what is around it. -/
@[mk_iff]
structure Entry.WellFormed (e : Entry) : Prop where
  name_ne : e.name ≠ ""
  name_word : e.name.toList.all isWord = true
  type : IsTrim e.type
  type_open : ')' ∉ e.type.toList
  description : IsTrim e.description
  /-- The description has one line, or no head of an entry can start in it. -/
  description_plain : '\n' ∉ e.description.toList ∨ '(' ∉ e.description.toList
  /-- No section starts in it. -/
  type_section : ∀ p ∈ ["Returns:", "Raises:"], ¬ p.toList <:+: e.type.toList
  description_section : ∀ p ∈ ["Returns:", "Raises:"], ¬ p.toList <:+: e.description.toList

instance (e : Entry) : Decidable e.WellFormed :=
  decidable_of_iff _ (Entry.wellFormed_iff e).symm

/-- An entry whose head can be told from what is around it, in which no section starts. -/
@[mk_iff]
structure Entry.Delimited (e : Entry) : Prop where
  name_ne : e.name ≠ ""
  name_word : e.name.toList.all isWord = true
  type_ne : e.type ≠ ""
  type_open : ')' ∉ e.type.toList
  type_section : ∀ p ∈ ["Returns:", "Raises:"], ¬ p.toList <:+: e.type.toList
  description_section : ∀ p ∈ ["Returns:", "Raises:"], ¬ p.toList <:+: e.description.toList

instance (e : Entry) : Decidable e.Delimited :=
  decidable_of_iff _ (Entry.delimited_iff e).symm

/-- A well-formed entry is delimited. -/
theorem Entry.WellFormed.delimited {e : Entry} (h : e.WellFormed) : e.Delimited :=
  ⟨h.name_ne, h.name_word, h.type.ne_empty, h.type_open, h.type_section, h.description_section⟩

/-- A result that can be told from what is around it. -/
@[mk_iff]
structure Result.WellFormed (r : Result) : Prop where
  type : IsTrim r.type
  type_chars : r.type.toList.all isTypeChar = true
  /-- The colon after the type does not make it the start of a section. -/
  type_section : ¬ "Raises".toList <:+ r.type.toList
  description : IsTrim r.description
  description_section : ¬ "Raises:".toList <:+: r.description.toList

instance (r : Result) : Decidable r.WellFormed :=
  decidable_of_iff _ (Result.wellFormed_iff r).symm

/-- Further text that starts a section of its own. It must not be taken for the section about the
result if there is none. -/
def IsTail (r : Option Result) (tail : String) : Prop :=
  tail = "" ∨ "\n\nRaises:".toList <+: tail.toList ∧
    (r = none → ¬ "Returns:".toList <:+: tail.toList)

instance (r : Option Result) (tail : String) : Decidable (IsTail r tail) :=
  inferInstanceAs (Decidable (_ ∨ _))

namespace IsTrim

variable {s : String} (h : IsTrim s)

include h

/-- A trimmed text is not empty. -/
theorem toList_ne_nil : s.toList ≠ [] :=
  fun he => h.ne_empty (String.toList_eq_nil_iff.mp he)

/-- There is nothing to strip from it. -/
theorem strip_toList : strip s.toList = s.toList := by
  have ht := congrArg String.toList h.no_blanks
  rwa [trimmed, String.toList_ofList] at ht

/-- It does not start with a blank. -/
theorem head_not_blank : ∀ c ∈ s.toList.head?, isBlank c = false :=
  (strip_eq_self_iff.mp h.strip_toList).1

/-- It does not end with a blank. -/
theorem last_not_blank : ∀ c ∈ s.toList.getLast?, isBlank c = false :=
  (strip_eq_self_iff.mp h.strip_toList).2

end IsTrim

/-! ## The head of an entry -/

/-- The head of an entry that is written out is recognised. -/
theorem head?_head {name type : List Char} (hname : name ≠ []) (hword : ∀ c ∈ name, isWord c = true)
    (htype : type ≠ []) (hopen : ')' ∉ type) (rest : List Char) :
    head? (name ++ ' ' :: '(' :: (type ++ ')' :: ':' :: rest)) = some (name, type, rest) := by
  have hnot : ∀ c ∈ type, (c != ')') = true := fun c hc =>
    bne_iff_ne.mpr fun he => hopen (he ▸ hc)
  have htake : (type ++ ')' :: ':' :: rest).takeWhile (· != ')') = type :=
    takeWhile_append_eq hnot (by simp)
  have hdrop : (type ++ ')' :: ':' :: rest).dropWhile (· != ')') = ')' :: ':' :: rest :=
    dropWhile_append_eq hnot (by simp)
  have hspace : ∀ c ∈ (' ' :: '(' :: (type ++ ')' :: ':' :: rest)).head?, isWord c = false := by
    simp only [List.head?_cons, Option.mem_some_iff, forall_eq']
    decide
  have hblank : (' ' :: '(' :: (type ++ ')' :: ':' :: rest)).dropWhile isBlank =
      '(' :: (type ++ ')' :: ':' :: rest) := by
    simp [isBlank]
  unfold head?
  simp only [takeWhile_append_eq hword hspace, dropWhile_append_eq hword hspace, hblank, htake,
    hdrop]
  simp [hname, htype, isBlank]

/-- Without an opening parenthesis after the first word there is no head. -/
theorem head?_eq_none {cs : List Char}
    (h : ((cs.dropWhile isWord).dropWhile isBlank).head? ≠ some '(') : head? cs = none := by
  unfold head?
  simp only
  split
  · rename_i inside hinside
    simp [hinside] at h
  · rfl

/-- A text that starts with a blank has no head. -/
theorem head?_of_blank {c : Char} {cs : List Char} (hc : isBlank c = true) :
    head? (c :: cs) = none := by
  unfold head?
  simp only [List.takeWhile_cons, isWord_of_isBlank hc]
  split
  · simp
  · rfl

/-- What can follow an entry: nothing, or a line end, blanks and something that is neither a blank
nor an opening parenthesis. -/
def Ends (rest : List Char) : Prop :=
  (∀ c ∈ rest.head?, c = '\n') ∧ (rest.dropWhile isBlank).head? ≠ some '('

/-- A text that does not end with a blank and has no opening parenthesis is no part of a head. -/
theorem head?_append_eq_none {cs rest : List Char}
    (hlast : ∀ c ∈ cs.getLast?, isBlank c = false) (hparen : '(' ∉ cs) (hrest : Ends rest) :
    head? (cs ++ rest) = none := by
  apply head?_eq_none
  rw [List.dropWhile_append]
  split_ifs with hword
  · -- the text is one word, and the parenthesis would have to follow blanks in `rest`
    have hstop : rest.dropWhile isWord = rest := by
      cases rest with
      | nil => rfl
      | cons c rest =>
        obtain rfl : c = '\n' := hrest.1 c rfl
        exact List.dropWhile_cons_of_neg (by decide)
    rw [hstop]
    exact hrest.2
  · -- the rest of the text is not all blank, so what comes first after blanks is in the text
    have hsuffix : cs.dropWhile isWord <:+ cs := List.dropWhile_suffix isWord
    have hleft : cs.dropWhile isWord ≠ [] := by simpa using hword
    have hlast' : ∀ c ∈ (cs.dropWhile isWord).getLast?, isBlank c = false := by
      rwa [getLast?_of_suffix hsuffix hleft]
    obtain ⟨x, xs, hx⟩ := List.exists_cons_of_ne_nil (dropWhile_ne_nil hleft hlast')
    have hmem : x ∈ cs := by
      refine hsuffix.subset ((List.dropWhile_suffix isBlank).subset ?_)
      rw [hx]
      exact List.mem_cons_self
    have hne' : x ≠ '(' := fun he => hparen (he ▸ hmem)
    rw [dropWhile_append_of_last hleft hlast', hx]
    simpa using hne'

/-! ## One entry -/

/-- A description goes on as long as no line end in it is followed by a head. -/
theorem description_append {cs rest : List Char}
    (hin : ∀ bs, '\n' :: bs <:+ cs → head? (stripStart (bs ++ rest)) = none)
    (hrest : rest = [] ∨ ∃ bs, rest = '\n' :: bs ∧ (head? (stripStart bs)).isSome = true) :
    description (cs ++ rest) = (cs, rest) := by
  induction cs with
  | nil =>
    rcases hrest with rfl | ⟨bs, rfl, hhead⟩
    · rfl
    · simp [description, hhead]
  | cons c cs ih =>
    have hstop : (c == '\n' && (head? (stripStart (cs ++ rest))).isSome) = false := by
      by_cases hc : c = '\n'
      · subst hc
        simp [hin cs (List.suffix_refl _)]
      · simp [hc]
    rw [List.cons_append, description, hstop,
      ih fun bs hbs => hin bs (hbs.trans (List.suffix_cons c cs))]
    rfl

/-- No line end in the description of a well-formed entry is followed by a head. -/
theorem Entry.WellFormed.no_head {e : Entry} (h : e.WellFormed) {rest bs : List Char}
    (hrest : Ends rest) (hbs : '\n' :: bs <:+ e.description.toList) :
    head? (stripStart (bs ++ rest)) = none := by
  rcases h.description_plain with hline | hparen
  · exact absurd (hbs.subset List.mem_cons_self) hline
  · have hlast : ∀ c ∈ ('\n' :: bs).getLast?, isBlank c = false := by
      rw [getLast?_of_suffix hbs (List.cons_ne_nil _ _)]
      exact h.description.last_not_blank
    have hne : bs ≠ [] := by
      rintro rfl
      exact absurd (hlast '\n' rfl) (by decide)
    rw [List.getLast?_cons_of_ne_nil hne] at hlast
    have hsuffix : bs.dropWhile isBlank <:+ bs := List.dropWhile_suffix isBlank
    have hleft := dropWhile_ne_nil hne hlast
    rw [stripStart, dropWhile_append_of_last hne hlast]
    refine head?_append_eq_none ?_ (fun hmem => hparen ?_) hrest
    · rwa [getLast?_of_suffix hsuffix hleft]
    · exact hbs.subset (List.mem_cons_of_mem _ (hsuffix.subset hmem))

/-- An entry from its name on. -/
def Entry.body (e : Entry) : List Char :=
  e.name.toList ++ ' ' :: '(' ::
    (e.type.toList ++ ')' :: ':' :: ' ' :: e.description.toList)

/-- A line end and the indentation of the line after it. -/
def indentation : List Char := ['\n', ' ', ' ', ' ', ' ']

/-- The indentation is blank. -/
theorem isBlank_of_mem_indentation : ∀ c ∈ indentation, isBlank c = true := by
  simp [indentation, isBlank]

/-- An entry on a line of its own. -/
def Entry.line (e : Entry) : List Char :=
  indentation ++ e.body

/-- An entry is written on its line. -/
theorem Entry.toList_written (e : Entry) : e.written.toList = e.line := by
  simp [written, line, body, indentation]

section Entries

variable {e : Entry}

/-- The name and the type of a delimited entry are read back. -/
theorem Entry.Delimited.head?_body (h : e.Delimited) (rest : List Char) :
    head? (e.body ++ rest) =
      some (e.name.toList, e.type.toList, ' ' :: (e.description.toList ++ rest)) := by
  have hne : ∀ {s : String}, s ≠ "" → s.toList ≠ [] := fun hs he =>
    hs (String.toList_eq_nil_iff.mp he)
  have hhead := head?_head (hne h.name_ne) (List.all_eq_true.mp h.name_word) (hne h.type_ne)
    h.type_open (' ' :: (e.description.toList ++ rest))
  simpa [Entry.body] using hhead

/-- An entry starts with a word character, which is neither a blank nor a parenthesis. -/
theorem Entry.Delimited.body_eq_cons (h : e.Delimited) :
    ∃ c cs, e.body = c :: cs ∧ isWord c = true := by
  rcases hn : e.name.toList with _ | ⟨c, cs⟩
  · exact absurd (String.toList_eq_nil_iff.mp hn) h.name_ne
  · exact ⟨c, _, by rw [body, hn]; rfl, List.all_eq_true.mp h.name_word c (by simp [hn])⟩

/-- The blanks before an entry are all that is removed with them. -/
theorem Entry.Delimited.stripStart_append (h : e.Delimited) {bs : List Char}
    (hbs : ∀ c ∈ bs, isBlank c = true) (rest : List Char) :
    stripStart (bs ++ (e.body ++ rest)) = e.body ++ rest := by
  obtain ⟨c, cs, hbody, hc⟩ := h.body_eq_cons
  refine dropWhile_append_eq hbs ?_
  simpa [hbody] using isBlank_of_isWord hc

/-- The lines of further entries, or nothing, can follow an entry. -/
theorem ends_lines {es : List Entry} (hes : ∀ e ∈ es, e.Delimited) :
    Ends (es.flatMap Entry.line) := by
  rcases es with _ | ⟨e, es⟩
  · simp [Ends]
  · have he := hes e List.mem_cons_self
    obtain ⟨c, cs, hbody, hc⟩ := he.body_eq_cons
    have hparen : c ≠ '(' := by
      rintro rfl
      rw [show isWord '(' = false by decide] at hc
      cases hc
    have hstrip := he.stripStart_append isBlank_of_mem_indentation (es.flatMap Entry.line)
    rw [stripStart] at hstrip
    rw [List.flatMap_cons, Ends, Entry.line, List.append_assoc, hstrip, hbody]
    exact ⟨by simp [indentation], by simpa using hparen⟩

/-- Where a line with an entry starts, a description ends. -/
theorem Entry.Delimited.isSome_head? (h : e.Delimited) (rest : List Char) :
    ∃ bs, e.line ++ rest = '\n' :: bs ∧ (head? (stripStart bs)).isSome = true := by
  refine ⟨indentation.tail ++ (e.body ++ rest), by simp [Entry.line, indentation], ?_⟩
  rw [h.stripStart_append fun c hc => isBlank_of_mem_indentation c (List.mem_of_mem_tail hc),
    h.head?_body]
  rfl

/-- An entry is read up to the next line that starts with one. -/
theorem Entry.WellFormed.entryAt?_body (h : e.WellFormed) {es : List Entry}
    (hes : ∀ e ∈ es, e.WellFormed) :
    entryAt? (e.body ++ es.flatMap Entry.line) = some (e, es.flatMap Entry.line) := by
  have hstart : stripStart (' ' :: (e.description.toList ++ es.flatMap Entry.line)) =
      e.description.toList ++ es.flatMap Entry.line := by
    obtain ⟨c, cs, hcs⟩ := List.exists_cons_of_ne_nil h.description.toList_ne_nil
    have hc := h.description.head_not_blank c (by simp [hcs])
    rw [hcs, stripStart, List.dropWhile_cons_of_pos (by decide)]
    simp [hc]
  have hrest : es.flatMap Entry.line = [] ∨ ∃ bs, es.flatMap Entry.line = '\n' :: bs ∧
      (head? (stripStart bs)).isSome = true := by
    rcases es with _ | ⟨e', es⟩
    · exact .inl rfl
    · exact .inr ((hes e' List.mem_cons_self).delimited.isSome_head? (es.flatMap Entry.line))
  have hends := ends_lines fun e he => (hes e he).delimited
  have hdescription := description_append (fun bs => h.no_head hends) hrest
  rw [entryAt?, h.delimited.head?_body]
  simp only [hstart, hdescription, h.type.strip_toList, h.description.strip_toList,
    String.ofList_toList]
  simp [isBlank]

end Entries

/-! ## The entries of a section -/

/-- A description and what follows it are the whole text. -/
theorem description_fst_append_snd (cs : List Char) : (description cs).1 ++ (description cs).2 = cs := by
  induction cs with
  | nil => rfl
  | cons c cs ih =>
    rw [description]
    split_ifs
    · rfl
    · simpa using ih

/-- What follows the head of an entry is the end of the text. -/
theorem suffix_of_head {cs name type rest : List Char} (h : head? cs = some (name, type, rest)) :
    ':' :: rest <:+ cs := by
  unfold head? at h
  simp only at h
  split at h
  · rename_i inside hinside
    split_ifs at h
    split at h
    · rename_i after hafter
      simp only [Option.some.injEq, Prod.mk.injEq] at h
      obtain ⟨-, -, rfl⟩ := h
      have hin : '(' :: inside <:+ cs :=
        hinside ▸ (List.dropWhile_suffix isBlank).trans (List.dropWhile_suffix isWord)
      have hclose : ')' :: ':' :: after <:+ inside := hafter ▸ List.dropWhile_suffix (· != ')')
      exact (List.suffix_cons _ _).trans (hclose.trans ((List.suffix_cons _ _).trans hin))
    · cases h
  · cases h

/-- What an entry is made of: a head, a blank, and a description that does not start with one. -/
theorem entryAt?_eq_some {cs rest : List Char} {e : Entry} (h : entryAt? cs = some (e, rest)) :
    ∃ name type b after, head? cs = some (name, type, b :: after) ∧ isBlank b = true ∧
      e = ⟨String.ofList name, String.ofList (strip type),
        String.ofList (strip (description (stripStart after)).1)⟩ ∧
      rest = (description (stripStart after)).2 := by
  unfold entryAt? at h
  split at h
  · rename_i name type after hhead
    split_ifs at h with hblank
    simp only [Option.some.injEq, Prod.mk.injEq] at h
    rcases after with _ | ⟨b, after⟩
    · cases hblank
    · have hb : isBlank b = true := by simpa using hblank
      have hstart : stripStart (b :: after) = stripStart after := by
        rw [stripStart, List.dropWhile_cons_of_pos hb, stripStart]
      rw [hstart] at h
      exact ⟨name, type, b, after, hhead, hb, h.1.symm, h.2.symm⟩
  · cases h

/-- What follows an entry is the end of the text, and shorter than the text. -/
theorem suffix_of_entry {cs rest : List Char} {e : Entry} (h : entryAt? cs = some (e, rest)) :
    rest <:+ cs ∧ rest.length < cs.length := by
  obtain ⟨name, type, b, after, hhead, -, -, rfl⟩ := entryAt?_eq_some h
  have hafter : ':' :: b :: after <:+ cs := suffix_of_head hhead
  have hsnd : (description (stripStart after)).2 <:+ stripStart after :=
    ⟨_, description_fst_append_snd _⟩
  have hrest := hsnd.trans (List.dropWhile_suffix isBlank)
  refine ⟨hrest.trans ((List.suffix_cons _ _).trans ((List.suffix_cons _ _).trans hafter)), ?_⟩
  have hlength := hafter.length_le
  have hle := hrest.length_le
  simp only [List.length_cons] at hlength
  omega

/-- As many steps as there are characters are enough: more do not change the entries. -/
theorem entriesFrom_eq {n m : Nat} {cs : List Char} (hn : cs.length ≤ n) (hm : cs.length ≤ m) :
    entriesFrom n cs = entriesFrom m cs := by
  induction n generalizing m cs with
  | zero =>
    obtain rfl := List.eq_nil_of_length_eq_zero (Nat.le_zero.mp hn)
    cases m <;> rfl
  | succ n ih =>
    rcases cs with _ | ⟨c, cs⟩
    · cases m <;> rfl
    · rw [List.length_cons] at hn hm
      obtain ⟨m, rfl⟩ : ∃ k, m = k + 1 := ⟨m - 1, by omega⟩
      rw [entriesFrom, entriesFrom]
      cases hentry : entryAt? (c :: cs) with
      | none => exact ih (by omega) (by omega)
      | some r =>
        have hlength := (suffix_of_entry hentry).2
        rw [List.length_cons] at hlength
        exact congrArg (r.1 :: ·) (ih (by omega) (by omega))

/-- Where no entry starts, the entries are those behind. -/
theorem entries_of_none {c : Char} {cs : List Char} (h : entryAt? (c :: cs) = none) :
    entries (c :: cs) = entries cs := by
  rw [entries, List.length_cons, entriesFrom, h, entries]

/-- An entry, and then those behind its end. -/
theorem entries_of_some {cs rest : List Char} {e : Entry} (h : entryAt? cs = some (e, rest)) :
    entries cs = e :: entries rest := by
  have hlength := (suffix_of_entry h).2
  rcases cs with _ | ⟨c, cs⟩
  · cases hlength
  · rw [List.length_cons] at hlength
    rw [entries, List.length_cons, entriesFrom, h, entries]
    exact congrArg (e :: ·) (entriesFrom_eq (by omega) le_rfl)

/-- No entry starts with a blank, so the blanks before one are passed over. -/
theorem entries_blanks {bs : List Char} (hbs : ∀ c ∈ bs, isBlank c = true) (cs : List Char) :
    entries (bs ++ cs) = entries cs := by
  induction bs with
  | nil => rfl
  | cons b bs ih =>
    have hnone : entryAt? (b :: (bs ++ cs)) = none := by
      rw [entryAt?, head?_of_blank (hbs b List.mem_cons_self)]
    rw [List.cons_append, entries_of_none hnone, ih fun c hc => hbs c (List.mem_cons_of_mem b hc)]

/-- The entries of a section that starts with an entry. -/
theorem entries_body {e : Entry} (h : e.WellFormed) {es : List Entry}
    (hes : ∀ e ∈ es, e.WellFormed) : entries (e.body ++ es.flatMap Entry.line) = e :: es := by
  rw [entries_of_some (h.entryAt?_body hes)]
  induction es generalizing e with
  | nil => rfl
  | cons e' es ih =>
    obtain ⟨he', hes'⟩ := List.forall_mem_cons.mp hes
    rw [List.flatMap_cons, Entry.line, List.append_assoc, entries_blanks isBlank_of_mem_indentation,
      entries_of_some (he'.entryAt?_body hes'), ih he' hes']

/-- Entries with different names stay as they are. -/
theorem foldl_insertEntry {es : List Entry} :
    ∀ done : List Entry, ((done ++ es).map Entry.name).Nodup →
      es.foldl insertEntry done = done ++ es := by
  induction es with
  | nil => simp
  | cons e es ih =>
    intro done h
    have hnew : done.any (·.name == e.name) = false := by
      rw [List.any_eq_false]
      intro x hx hname
      rw [List.map_append, List.map_cons, List.nodup_append'] at h
      refine h.2.2 (List.mem_map_of_mem hx) ?_
      rw [eq_of_beq hname]
      exact List.mem_cons_self
    have hinsert : insertEntry done e = done ++ [e] := by
      simp [insertEntry, hnew]
    rw [List.foldl_cons, hinsert, ih _ (by simpa using h), List.append_assoc]
    rfl

/-! ## The sections -/

/-- What the two headers that end a section have in common. -/
theorem header_cases {p : String} (hp : p ∈ ["Returns:", "Raises:"]) :
    (∃ q, p.toList = 'R' :: q) ∧ ':' ∈ p.toList ∧ ∀ c ∈ ['\n', ' ', '(', ')'], c ∉ p.toList := by
  simp only [List.mem_cons, List.not_mem_nil, or_false] at hp
  rcases hp with rfl | rfl <;> simp

/-- A header does not start in a line with an entry. -/
theorem Entry.Delimited.startsNowhere_line {e : Entry} (h : e.Delimited) {p : String}
    (hp : p ∈ ["Returns:", "Raises:"]) {rest : List Char} (hrest : ∀ c ∈ rest.head?, c = '\n') :
    StartsNowhere p.toList e.line rest := by
  obtain ⟨⟨q, hq⟩, hcolon, hnot⟩ := header_cases hp
  have hline : e.line = indentation ++ (e.name.toList ++ ([' ', '('] ++
      (e.type.toList ++ ([')', ':', ' '] ++ e.description.toList)))) := rfl
  have hname : ¬ p.toList <:+: e.name.toList := by
    intro hin
    have hword := List.all_eq_true.mp h.name_word ':' (hin.subset hcolon)
    rw [show isWord ':' = false by decide] at hword
    cases hword
  simp only [hline, startsNowhere_append]
  refine ⟨?_, ?_, ?_, ?_, ?_, ?_⟩
  · rw [hq]
    exact startsNowhere_of_not_mem (by simp [indentation]) _
  · exact startsNowhere_of_absent hname (by simpa using hnot ' ' (by simp))
  · rw [hq]
    exact startsNowhere_of_not_mem (by simp) _
  · exact startsNowhere_of_absent (h.type_section p hp) (by simpa using hnot ')' (by simp))
  · rw [hq]
    exact startsNowhere_of_not_mem (by simp) _
  · refine startsNowhere_of_absent (h.description_section p hp) fun c hc => ?_
    rw [hrest c hc]
    exact hnot '\n' (by simp)

/-- A header does not start in the lines with entries. -/
theorem startsNowhere_lines {es : List Entry} (hes : ∀ e ∈ es, e.Delimited) {p : String}
    (hp : p ∈ ["Returns:", "Raises:"]) {rest : List Char} (hrest : ∀ c ∈ rest.head?, c = '\n') :
    StartsNowhere p.toList (es.flatMap Entry.line) rest := by
  induction es with
  | nil => trivial
  | cons e es ih =>
    rw [List.flatMap_cons, startsNowhere_append]
    refine ⟨(hes e List.mem_cons_self).startsNowhere_line hp ?_,
      ih fun e h => hes e (List.mem_cons_of_mem _ h)⟩
    rcases es with _ | ⟨e', es⟩
    · simpa using hrest
    · simp [Entry.line, indentation]

/-- A section ends where nothing follows, or a blank line and a header. -/
def EndsSection (headers : List String) (cs : List Char) : Prop :=
  cs = [] ∨ ∃ p ∈ headers, ∃ more, cs = '\n' :: '\n' :: (p.toList ++ more)

/-- What ends a section starts on a new line. -/
theorem EndsSection.head {headers : List String} {cs : List Char} (h : EndsSection headers cs) :
    ∀ c ∈ cs.head?, c = '\n' := by
  rcases h with rfl | ⟨p, -, more, rfl⟩ <;> simp

/-- Up to the header that ends a section there are only blanks. -/
theorem EndsSection.gap {headers : List String} (hheaders : headers ⊆ ["Returns:", "Raises:"])
    {cs : List Char} (h : EndsSection headers cs) :
    ∃ gap, (∀ c ∈ gap, isBlank c = true) ∧ uptoAny (headers.map String.toList) cs = gap := by
  rcases h with rfl | ⟨p, hp, more, rfl⟩
  · exact ⟨[], by simp, rfl⟩
  · refine ⟨['\n', '\n'], by simp [isBlank], ?_⟩
    have hpass : ∀ q ∈ headers.map String.toList,
        StartsNowhere q ['\n', '\n'] (p.toList ++ more) := by
      intro q hq
      obtain ⟨q', hq', rfl⟩ := List.mem_map.mp hq
      obtain ⟨⟨t, ht⟩, -⟩ := header_cases (hheaders hq')
      rw [ht]
      exact startsNowhere_of_not_mem (by simp) _
    exact (uptoAny_append hpass).trans
      (by rw [uptoAny_eq_nil (List.mem_map_of_mem hp), List.append_nil])

/-- A section that is put between blanks is read up to its end. -/
theorem strip_uptoAny {headers : List String} (hheaders : headers ⊆ ["Returns:", "Raises:"])
    {bs cs rest : List Char} (hbs : ∀ c ∈ bs, isBlank c = true) (hcs : strip cs = cs)
    (hne : cs ≠ [])
    (hpass : ∀ p ∈ headers, StartsNowhere p.toList (bs ++ cs) rest)
    (hrest : EndsSection headers rest) :
    strip (uptoAny (headers.map String.toList) (bs ++ cs ++ rest)) = cs := by
  obtain ⟨gap, hgap, hupto⟩ := hrest.gap hheaders
  rw [uptoAny_append (by simpa using hpass), hupto, strip_append hbs hgap hcs hne]

/-- The section of the parameters has no blanks at its ends. -/
theorem strip_entries {e : Entry} (h : e.WellFormed) {es : List Entry}
    (hes : ∀ e ∈ es, e.WellFormed) :
    strip (e.body ++ es.flatMap Entry.line) = e.body ++ es.flatMap Entry.line := by
  have hlast : ∀ e : Entry, e.WellFormed → ∀ cs : List Char,
      ∀ c ∈ (cs ++ e.body).getLast?, isBlank c = false := by
    intro e he cs
    have hbody : e.body = (e.name.toList ++ [' ', '('] ++ e.type.toList ++ [')', ':', ' ']) ++
        e.description.toList := by
      simp [Entry.body]
    rw [hbody, ← List.append_assoc, List.getLast?_append_of_ne_nil _ he.description.toList_ne_nil]
    exact he.description.last_not_blank
  rw [strip_eq_self_iff]
  constructor
  · exact stripStart_eq_self_iff.mp (h.delimited.stripStart_append (List.forall_mem_nil _) _)
  · rcases List.eq_nil_or_concat' es with rfl | ⟨es, e', rfl⟩
    · simpa using hlast e h []
    · have he' : e'.WellFormed := hes e' (by simp)
      simpa [Entry.line] using hlast e' he' (e.body ++ es.flatMap Entry.line ++ indentation)

/-- What stands before the entries. -/
def opening (summary : String) : List Char :=
  summary.toList ++ ['\n', '\n'] ++ "Args:".toList

/-- The result from its type on. -/
def Result.body (r : Result) : List Char :=
  r.type.toList ++ ':' :: ' ' :: r.description.toList

/-- What stands after the entries. -/
def closing (r : Option Result) (tail : String) : List Char :=
  ((r.map Result.written).getD "").toList ++ tail.toList

/-- The section about a result, and the tail. -/
theorem closing_some (r : Result) (tail : String) :
    closing (some r) tail =
      ['\n', '\n'] ++ ("Returns:".toList ++ (indentation ++ r.body ++ tail.toList)) := by
  have hheader : "\n\nReturns:\n    ".toList =
      ['\n', '\n'] ++ ("Returns:".toList ++ indentation) := by
    decide
  have hcolon : ": ".toList = [':', ' '] := by decide
  have hwritten : r.written.toList =
      ['\n', '\n'] ++ ("Returns:".toList ++ (indentation ++ r.body)) := by
    change ("\n\nReturns:\n    " ++ r.type ++ ": " ++ r.description).toList = _
    rw [String.toList_append, String.toList_append, String.toList_append, hheader, hcolon,
      Result.body]
    simp only [List.append_assoc, List.cons_append, List.nil_append]
  rw [closing, Option.map_some, Option.getD_some, hwritten]
  simp only [List.append_assoc]

/-- A docstring is its opening, its entries and its closing. -/
theorem toList_written (summary : String) (es : List Entry) (r : Option Result) (tail : String) :
    (written summary es r tail).toList =
      opening summary ++ es.flatMap Entry.line ++ closing r tail := by
  simp [written, opening, closing, Entry.toList_written, List.flatMap_map]

/-- A tail ends the section about the result. -/
theorem IsTail.endsSection {r : Option Result} {tail : String} (h : IsTail r tail) :
    EndsSection ["Raises:"] tail.toList := by
  rcases h with rfl | ⟨⟨more, hmore⟩, -⟩
  · exact .inl rfl
  · exact .inr ⟨"Raises:", by simp, more, hmore.symm⟩

/-- The closing ends the section about the parameters. -/
theorem endsSection_closing {r : Option Result} {tail : String} (h : IsTail r tail) :
    EndsSection ["Returns:", "Raises:"] (closing r tail) := by
  cases r with
  | none =>
    rcases h.endsSection with htail | ⟨p, hp, more, htail⟩
    · exact .inl (by simpa [closing] using htail)
    · exact .inr ⟨p, List.mem_cons_of_mem _ hp, more, by simpa [closing] using htail⟩
  | some x => exact .inr ⟨"Returns:", by simp, _, closing_some x tail⟩

/-- The section of the parameters of a written docstring. -/
theorem paramSection?_written {summary : String} (hsummary : ¬ "Args:".toList <:+: summary.toList)
    {e : Entry} {es : List Entry} (hes : ∀ x ∈ e :: es, x.WellFormed) {r : Option Result}
    {tail : String} (htail : IsTail r tail) :
    paramSection? (written summary (e :: es) r tail).toList =
      some (e.body ++ es.flatMap Entry.line) := by
  obtain ⟨he, hes'⟩ := List.forall_mem_cons.mp hes
  have hcut : ∀ rest, cutAt? "Args:".toList (opening summary ++ rest) =
      some (summary.toList ++ ['\n', '\n'], rest) := by
    intro rest
    have hpass : StartsNowhere "Args:".toList (summary.toList ++ ['\n', '\n'])
        ("Args:".toList ++ rest) := by
      rw [startsNowhere_append]
      refine ⟨startsNowhere_of_absent hsummary (by simp), ?_⟩
      rw [show "Args:".toList = 'A' :: "rgs:".toList by simp]
      exact startsNowhere_of_not_mem (by simp) _
    rw [opening, List.append_assoc, cutAt?_append hpass, cutAt?_self_append]
    simp
  have hends := endsSection_closing htail
  rw [toList_written, List.append_assoc, paramSection?, hcut, Option.map_some]
  have hline : (e :: es).flatMap Entry.line = indentation ++ (e.body ++ es.flatMap Entry.line) := by
    simp [Entry.line]
  have hpass : ∀ p ∈ ["Returns:", "Raises:"],
      StartsNowhere p.toList (indentation ++ (e.body ++ es.flatMap Entry.line))
        (closing r tail) := fun p hp =>
    hline ▸ startsNowhere_lines (fun x hx => (hes x hx).delimited) hp hends.head
  obtain ⟨c, cs, hbody, -⟩ := he.delimited.body_eq_cons
  have hstrip := strip_uptoAny (List.Subset.refl _) isBlank_of_mem_indentation
    (strip_entries he hes') (by simp [hbody]) hpass hends
  rw [hline]
  exact congrArg some hstrip

/-- The section about the result starts neither before the entries nor in them. -/
theorem startsNowhere_opening {summary : String}
    (hsummary : ¬ "Returns:".toList <:+: summary.toList) {es : List Entry}
    (hes : ∀ e ∈ es, e.WellFormed) {rest : List Char} (hrest : ∀ c ∈ rest.head?, c = '\n') :
    StartsNowhere "Returns:".toList (opening summary ++ es.flatMap Entry.line) rest := by
  rw [opening, List.append_assoc, List.append_assoc, startsNowhere_append, ← List.append_assoc,
    startsNowhere_append]
  refine ⟨startsNowhere_of_absent hsummary (by simp), ?_,
    startsNowhere_lines (fun e he => (hes e he).delimited) (by simp) hrest⟩
  rw [show "Returns:".toList = 'R' :: "eturns:".toList by simp]
  exact startsNowhere_of_not_mem (by simp) _

/-- A docstring without a section about the result. -/
theorem returnSection?_written_none {summary : String}
    (hsummary : ¬ "Returns:".toList <:+: summary.toList) {es : List Entry}
    (hes : ∀ e ∈ es, e.WellFormed) {tail : String} (htail : IsTail none tail) :
    returnSection? (written summary es none tail).toList = none := by
  have hpass : StartsNowhere "Returns:".toList (written summary es none tail).toList [] := by
    rw [toList_written, startsNowhere_append, List.append_nil]
    refine ⟨startsNowhere_opening hsummary hes (endsSection_closing htail).head, ?_⟩
    refine startsNowhere_of_absent ?_ (by simp)
    rcases htail with rfl | ⟨-, hno⟩
    · simp [closing]
    · simpa [closing] using hno rfl
  rw [returnSection?, cutAt?_eq_none (by simp) hpass, Option.map_none]

namespace Result.WellFormed

variable {r : Result} (h : r.WellFormed)

include h

/-- The type of a result holds no colon. -/
theorem colon_not_mem : ':' ∉ r.type.toList := by
  intro hmem
  have hc := List.all_eq_true.mp h.type_chars ':' hmem
  rw [show isTypeChar ':' = false by decide] at hc
  cases hc

/-- The result is what a section says that has nothing else in it. -/
theorem result?_body : result? r.body = some r := by
  obtain ⟨c, cs, hcs⟩ := List.exists_cons_of_ne_nil h.type.toList_ne_nil
  have hcolon : ∀ a ∈ (':' :: ' ' :: r.description.toList).head?, isTypeChar a = false := by
    simp only [List.head?_cons, Option.mem_some_iff, forall_eq']
    decide
  have hchars := List.all_eq_true.mp h.type_chars
  have htake := takeWhile_append_eq hchars hcolon
  have hdrop := dropWhile_append_eq hchars hcolon
  have hlength : r.body.length = (cs.length + r.description.toList.length + 2) + 1 := by
    simp [body, hcs]
    omega
  rw [result?, hlength, body]
  rw [hcs, List.cons_append] at htake hdrop ⊢
  rw [resultFrom, htake, hdrop]
  simp only [← hcs, h.type.strip_toList, h.description.strip_toList, String.ofList_toList]
  simp [hcs, isBlank]

/-- There is nothing to strip from a result. -/
theorem strip_body : strip r.body = r.body := by
  have hbody : r.body = (r.type.toList ++ [':', ' ']) ++ r.description.toList := by
    simp [body]
  rw [strip_eq_self_iff]
  constructor
  · rw [body, List.head?_append_of_ne_nil _ h.type.toList_ne_nil]
    exact h.type.head_not_blank
  · rw [hbody, List.getLast?_append_of_ne_nil _ h.description.toList_ne_nil]
    exact h.description.last_not_blank

/-- The next section does not start in that about the result. Only the colon after the type could
make a header of what stands before it. -/
theorem startsNowhere_body {rest : List Char} (hrest : ∀ c ∈ rest.head?, c = '\n') :
    StartsNowhere "Raises:".toList (indentation ++ r.body) rest := by
  have hbody : r.body = (r.type.toList ++ [':']) ++ ([' '] ++ r.description.toList) := by
    simp [body]
  have hraises : "Raises:".toList = 'R' :: "aises:".toList := by simp
  have htype : ¬ "Raises:".toList <:+: r.type.toList ++ [':'] := by
    rw [List.infix_concat_iff]
    rintro (⟨t, ht⟩ | hin)
    · rw [show "Raises:".toList = "Raises".toList ++ [':'] by simp, ← List.append_assoc] at ht
      exact h.type_section ⟨t, (List.append_inj' ht rfl).1⟩
    · exact h.colon_not_mem (hin.subset (by simp))
  rw [hbody, startsNowhere_append, startsNowhere_append]
  refine ⟨?_, startsNowhere_of_absent htype (by simp), startsNowhere_append.mpr ⟨?_, ?_⟩⟩
  · rw [hraises]
    exact startsNowhere_of_not_mem (by simp [indentation]) _
  · rw [hraises]
    exact startsNowhere_of_not_mem (by simp) _
  · refine startsNowhere_of_absent h.description_section fun c hc => ?_
    rw [hrest c hc]
    simp

end Result.WellFormed

/-- The section about the result of a written docstring. -/
theorem returnSection?_written_some {summary : String}
    (hsummary : ¬ "Returns:".toList <:+: summary.toList) {es : List Entry}
    (hes : ∀ e ∈ es, e.WellFormed) {r : Result} (hr : r.WellFormed) {tail : String}
    (htail : IsTail (some r) tail) :
    returnSection? (written summary es (some r) tail).toList = some r.body := by
  have hpass : StartsNowhere "Returns:".toList
      (opening summary ++ es.flatMap Entry.line ++ ['\n', '\n'])
      ("Returns:".toList ++ (indentation ++ r.body ++ tail.toList)) := by
    rw [startsNowhere_append]
    refine ⟨startsNowhere_opening hsummary hes (by simp), ?_⟩
    rw [show "Returns:".toList = 'R' :: "eturns:".toList by simp]
    exact startsNowhere_of_not_mem (by simp) _
  have hends := htail.endsSection
  have hne : r.body ≠ [] := by simp [Result.body]
  have hstrip := strip_uptoAny (by simp) isBlank_of_mem_indentation hr.strip_body hne
    (by simpa using hr.startsNowhere_body hends.head) hends
  rw [toList_written, closing_some, ← List.append_assoc, returnSection?, cutAt?_append hpass,
    cutAt?_self_append]
  exact congrArg some hstrip

/-! ## The whole docstring -/

/-- **A well-formed docstring is read back.** The parameters are the entries in order and the result
is the one that was written, if one was. The summary may hold anything but a header of the two
sections, and further text may follow. -/
theorem parse?_written {summary : String} {es : List Entry} {r : Option Result} {tail : String}
    (hsummary : ∀ p ∈ ["Args:", "Returns:"], ¬ p.toList <:+: summary.toList)
    (hne : es ≠ []) (hnames : (es.map Entry.name).Nodup) (hes : ∀ e ∈ es, e.WellFormed)
    (hr : ∀ x ∈ r, x.WellFormed) (htail : IsTail r tail) :
    parse? (some (written summary es r tail)) = ⟨es, r⟩ := by
  obtain ⟨e, es, rfl⟩ := List.exists_cons_of_ne_nil hne
  obtain ⟨he, hes'⟩ := List.forall_mem_cons.mp hes
  have hparams : paramSection? (written summary (e :: es) r tail).toList =
      some (e.body ++ es.flatMap Entry.line) :=
    paramSection?_written (hsummary "Args:" (by simp)) hes htail
  have hreturns : (returnSection? (written summary (e :: es) r tail).toList).bind result? = r := by
    have hheader := hsummary "Returns:" (by simp)
    cases r with
    | none => rw [returnSection?_written_none hheader hes htail, Option.bind_none]
    | some x =>
      have hx := hr x rfl
      rw [returnSection?_written_some hheader hes hx htail, Option.bind_some, hx.result?_body]
  rw [parse?, parse, hparams, hreturns]
  simp only [entries_body he hes', foldl_insertEntry [] hnames, List.nil_append]

/-- Entries whose parentheses, colons and line ends are easily taken for something else. -/
def sampleEntries : List Entry :=
  [⟨"x", "int, or (a", "the first, as in y (int): above"⟩,
   ⟨"y_2", "Dict[str, int]", "the second\n\n    z: goes on\n  here"⟩]

def sampleResult : Result :=
  ⟨"Dict[str,\n  List[Raises, int]]", "Args: (a map):\n    and\n    more (int): of it"⟩

/-- The sample is read back, also in front of a last section. -/
theorem parse?_written_sample :
    parse? (some (written "Adds x (int): 1\n" sampleEntries (some sampleResult)
      "\n\nRaises:\n    E: if\n\nReturns:\n    int: no")) = ⟨sampleEntries, some sampleResult⟩ ∧
    parse? (some (written "" sampleEntries none "\n\nRaises:\n    int: x (int): 1")) =
      ⟨sampleEntries, none⟩ :=
  ⟨parse?_written (by decide +kernel) (by decide) (by decide) (by decide +kernel)
    (by decide +kernel) (by decide +kernel),
   parse?_written (by decide +kernel) (by decide) (by decide) (by decide +kernel) (by simp)
    (by decide +kernel)⟩

end Codebook.Docstring
