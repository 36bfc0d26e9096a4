import Mathlib
import Codebook.Text.Blank
import Codebook.Text.Part
import Codebook.Text.Word

/-!
# Where a text occurs in another, and blanks around it

A text is looked for from left to right. `StartsNowhere p as rest` says that no occurrence of `p`
starts in `as` if `rest` follows, so that the search passes over `as`. A text put together from
pieces is taken apart by `startsNowhere_append`, and each piece is settled by one of three reasons: it
lacks the first character of `p`, or it does not hold `p` and what follows cannot complete it, or it
does not hold `p` and ends with no character of it.

`strip_eq_self_iff` says what it means to have no blanks at either end, and `strip_append` that
`strip` removes the blanks that are put around such a text.
-/

namespace Codebook.Text

/-! ## Occurrences -/

/-- No occurrence of `p` starts in the text if `rest` follows it. -/
def StartsNowhere (p : List Char) : List Char → List Char → Prop
  | [], _ => True
  | c :: cs, rest => ¬ p <+: c :: cs ++ rest ∧ StartsNowhere p cs rest

/-- A text starts nowhere in a whole if it does in no part. -/
theorem startsNowhere_append {p as bs rest : List Char} :
    StartsNowhere p (as ++ bs) rest ↔
      StartsNowhere p as (bs ++ rest) ∧ StartsNowhere p bs rest := by
  induction as with
  | nil => simp [StartsNowhere]
  | cons a as ih => simp [StartsNowhere, ih, and_assoc]

/-- A text without the first character of `p`. -/
theorem startsNowhere_of_not_mem {a : Char} {p as : List Char} (h : a ∉ as) (rest : List Char) :
    StartsNowhere (a :: p) as rest := by
  induction as with
  | nil => trivial
  | cons c as ih =>
    rw [List.mem_cons, not_or] at h
    obtain ⟨hc, has⟩ := h
    exact ⟨fun hp => hc (List.cons_prefix_cons.mp hp).1, ih has⟩

/-- What follows a text cannot complete `p` if its first character is in `p` at most in the first
place. -/
theorem prefix_append_iff {p as rest : List Char} (has : as ≠ [])
    (hrest : ∀ c ∈ rest.head?, c ∉ p.tail) : p <+: as ++ rest ↔ p <+: as := by
  refine ⟨?_, fun hp => hp.trans (List.prefix_append as rest)⟩
  rintro ⟨t, ht⟩
  rcases List.append_eq_append_iff.mp ht with ⟨bs, hbs, -⟩ | ⟨bs, hbs, hr⟩
  · exact ⟨bs, hbs.symm⟩
  · rcases bs with _ | ⟨b, bs⟩
    · exact ⟨[], by simpa using hbs⟩
    · obtain ⟨a, as, rfl⟩ := List.exists_cons_of_ne_nil has
      exact absurd (by simp [hbs]) (hrest b (by simp [hr]))

/-- A text that does not hold `p`, before one that cannot complete it. -/
theorem startsNowhere_of_tail {p as rest : List Char} (h : ¬ p <:+: as)
    (hrest : ∀ c ∈ rest.head?, c ∉ p.tail) : StartsNowhere p as rest := by
  induction as with
  | nil => trivial
  | cons a as ih =>
    refine ⟨fun hp => h ?_, ih fun hp => h (List.infix_cons hp)⟩
    exact ((prefix_append_iff (List.cons_ne_nil a as) hrest).mp hp).isInfix

/-- A text that does not hold `p`, before one that starts with a character that `p` lacks. -/
theorem startsNowhere_of_absent {p as rest : List Char} (h : ¬ p <:+: as)
    (hrest : ∀ c ∈ rest.head?, c ∉ p) : StartsNowhere p as rest :=
  startsNowhere_of_tail h fun c hc hmem => hrest c hc (List.mem_of_mem_tail hmem)

/-- A text that does not hold `p` and does not end with a character of `p`. -/
theorem startsNowhere_of_last {p as : List Char} (h : ¬ p <:+: as) (hlast : ∀ c ∈ as.getLast?, c ∉ p)
    (rest : List Char) : StartsNowhere p as rest := by
  induction as with
  | nil => trivial
  | cons a as ih =>
    refine ⟨?_, ih (fun hp => h (List.infix_cons hp)) ?_⟩
    · rintro ⟨t, ht⟩
      -- either `p` ends in the text, or the text ends in `p`
      rcases List.append_eq_append_iff.mp ht with ⟨bs, hbs, -⟩ | ⟨bs, hbs, -⟩
      · exact h ⟨[], bs, by simp [hbs]⟩
      · refine hlast _ (List.getLast?_eq_getLast_of_ne_nil (List.cons_ne_nil a as)) ?_
        rw [hbs]
        exact List.mem_append_left _ (List.getLast_mem _)
    · intro c hc
      refine hlast c ?_
      cases as with
      | nil => cases hc
      | cons b as => rwa [List.getLast?_cons_cons]

/-- Looking for `p` passes over a text in which it does not start. -/
theorem cutAt?_append {p as rest : List Char} (h : StartsNowhere p as rest) :
    cutAt? p (as ++ rest) = (cutAt? p rest).map fun r => (as ++ r.1, r.2) := by
  induction as with
  | nil => simp
  | cons a as ih =>
    have hnone : dropPart? p (a :: (as ++ rest)) = none := by
      rw [Option.eq_none_iff_forall_ne_some]
      exact fun t ht => h.1 ⟨t, (dropPart?_eq_some_iff.mp ht).symm⟩
    rw [List.cons_append, cutAt?, hnone]
    simp [ih h.2, Function.comp_def]

/-- A text is cut at once where it starts. -/
theorem cutAt?_self_append (p rest : List Char) : cutAt? p (p ++ rest) = some ([], rest) := by
  have hdrop : dropPart? p (p ++ rest) = some rest := dropPart?_eq_some_iff.mpr rfl
  rcases hp : p ++ rest with _ | ⟨c, cs⟩
  · rw [hp] at hdrop
    rw [cutAt?, hdrop]
    rfl
  · rw [hp] at hdrop
    rw [cutAt?, hdrop]

/-- Looking for `p` where it does not start finds nothing. -/
theorem cutAt?_eq_none {p cs : List Char} (hp : p ≠ []) (h : StartsNowhere p cs []) :
    cutAt? p cs = none := by
  obtain ⟨a, p, rfl⟩ := List.exists_cons_of_ne_nil hp
  have hcut := cutAt?_append h
  rwa [List.append_nil] at hcut

/-- A text is not found exactly if it does not occur. -/
theorem cutAt?_eq_none_iff {p cs : List Char} : cutAt? p cs = none ↔ ¬ p <:+: cs := by
  have hdrop (cs : List Char) : dropPart? p cs = none ↔ ¬ p <+: cs := by
    rw [← startsWith_iff, startsWith, Option.not_isSome_iff_eq_none]
  induction cs with
  | nil => simp [cutAt?, hdrop]
  | cons c cs ih =>
    rw [cutAt?, List.infix_cons_iff]
    cases hd : dropPart? p (c :: cs) with
    | none => simp [ih, (hdrop _).mp hd]
    | some rest => simp [dropPart?_eq_some_iff.mp hd]

/-- The first occurrence of a text stays the first when more follows. -/
theorem cutAt?_append_of_some {p as rest : List Char} {r : List Char × List Char}
    (h : cutAt? p as = some r) : cutAt? p (as ++ rest) = some (r.1, r.2 ++ rest) := by
  induction as generalizing r with
  | nil =>
    rw [cutAt?, Option.map_eq_some_iff] at h
    obtain ⟨t, ht, rfl⟩ := h
    obtain ⟨rfl, rfl⟩ := List.append_eq_nil_iff.mp (dropPart?_eq_some_iff.mp ht).symm
    exact cutAt?_self_append [] rest
  | cons a as ih =>
    rw [cutAt?] at h
    cases hdrop : dropPart? p (a :: as) with
    | some t =>
      simp only [hdrop, Option.some.injEq] at h
      rw [dropPart?_eq_some_iff.mp hdrop, List.append_assoc, cutAt?_self_append, ← h]
    | none =>
      simp only [hdrop, Option.map_eq_some_iff] at h
      obtain ⟨t, ht, rfl⟩ := h
      -- an occurrence that starts here would end before the one that was found
      have hin : p <:+: as := by
        by_contra hp
        rw [cutAt?_eq_none_iff.mpr hp] at ht
        cases ht
      have hnone : dropPart? p (a :: (as ++ rest)) = none := by
        rw [Option.eq_none_iff_forall_ne_some]
        intro u hu
        have hprefix : p <+: a :: as := List.prefix_of_prefix_length_le
          ⟨u, (dropPart?_eq_some_iff.mp hu).symm⟩ (List.prefix_append (a :: as) rest)
          (hin.length_le.trans (Nat.le_succ _))
        obtain ⟨v, hv⟩ := hprefix
        rw [dropPart?_eq_some_iff.mpr hv.symm] at hdrop
        cases hdrop
      rw [List.cons_append, cutAt?, hnone]
      simp [ih ht]

/-- Reading up to one of several texts passes over a text in which none of them starts. -/
theorem uptoAny_append {ps : List (List Char)} {as rest : List Char}
    (h : ∀ p ∈ ps, StartsNowhere p as rest) : uptoAny ps (as ++ rest) = as ++ uptoAny ps rest := by
  induction as with
  | nil => rfl
  | cons a as ih =>
    have hnone : ps.any (startsWith · (a :: (as ++ rest))) = false := by
      rw [List.any_eq_false]
      exact fun p hp hs => (h p hp).1 (startsWith_iff.mp hs)
    rw [List.cons_append, uptoAny, hnone]
    simp [ih fun p hp => (h p hp).2]

/-- Reading up to one of several texts stops at it. -/
theorem uptoAny_eq_nil {ps : List (List Char)} {p : List Char} (hp : p ∈ ps) (rest : List Char) :
    uptoAny ps (p ++ rest) = [] := by
  rcases hcs : p ++ rest with _ | ⟨c, cs⟩
  · rfl
  · have hany : ps.any (startsWith · (c :: cs)) = true :=
      List.any_eq_true.mpr ⟨p, hp, startsWith_iff.mpr ⟨rest, hcs⟩⟩
    rw [uptoAny, hany]
    rfl

/-- Reading up to one of several texts is not changed by what follows if it stops there at once and
does not complete one of them. -/
theorem uptoAny_append_eq {ps : List (List Char)} {rest : List Char}
    (hps : ∀ p ∈ ps, ∀ c ∈ rest.head?, c ∉ p.tail) (hrest : uptoAny ps rest = []) (as : List Char) :
    uptoAny ps (as ++ rest) = uptoAny ps as := by
  induction as with
  | nil => exact hrest
  | cons a as ih =>
    have hany : ps.any (startsWith · (a :: (as ++ rest))) = ps.any (startsWith · (a :: as)) := by
      rw [Bool.eq_iff_iff, List.any_eq_true, List.any_eq_true]
      refine exists_congr fun p => and_congr_right fun hp => ?_
      rw [startsWith_iff, startsWith_iff]
      exact prefix_append_iff (List.cons_ne_nil a as) (hps p hp)
    rw [List.cons_append, uptoAny, uptoAny, hany, ih]

/-! ## Runs of characters -/

/-- A run of characters ends where the next one is of another kind. -/
theorem takeWhile_append_eq {f : Char → Bool} {as rest : List Char} (h : ∀ c ∈ as, f c = true)
    (hrest : ∀ c ∈ rest.head?, f c = false) : (as ++ rest).takeWhile f = as := by
  rw [List.takeWhile_append_of_pos h]
  cases rest with
  | nil => simp
  | cons c cs => simp [hrest c rfl]

/-- All that is to be dropped in front is dropped. -/
theorem dropWhile_append_eq {f : Char → Bool} {as rest : List Char} (h : ∀ c ∈ as, f c = true)
    (hrest : ∀ c ∈ rest.head?, f c = false) : (as ++ rest).dropWhile f = rest := by
  rw [List.dropWhile_append_of_pos h]
  cases rest with
  | nil => simp
  | cons c cs => simp [hrest c rfl]

/-- A text that does not end with a character of some kind is not used up by dropping such
characters at its start. -/
theorem dropWhile_ne_nil {f : Char → Bool} {cs : List Char} (hne : cs ≠ [])
    (hlast : ∀ c ∈ cs.getLast?, f c = false) : cs.dropWhile f ≠ [] := by
  intro h
  have hall := List.dropWhile_eq_nil_iff.mp h _ (List.getLast_mem hne)
  rw [hlast _ (List.getLast?_eq_getLast_of_ne_nil hne)] at hall
  cases hall

/-- Nothing is dropped after a character that stays. -/
theorem dropWhile_append_of_last {f : Char → Bool} {cs : List Char} (hne : cs ≠ [])
    (hlast : ∀ c ∈ cs.getLast?, f c = false) (rest : List Char) :
    (cs ++ rest).dropWhile f = cs.dropWhile f ++ rest := by
  rw [List.dropWhile_append, if_neg]
  simpa using dropWhile_ne_nil hne hlast

/-- What is left at the end of a text ends as it does. -/
theorem getLast?_of_suffix {as bs : List Char} (h : as <:+ bs) (hne : as ≠ []) :
    as.getLast? = bs.getLast? := by
  obtain ⟨t, rfl⟩ := h
  rw [List.getLast?_append_of_ne_nil _ hne]

/-! ## Blanks at the ends -/

/-- `stripStart` leaves a text as it is if it does not start with a blank. -/
theorem stripStart_eq_self_iff {cs : List Char} :
    stripStart cs = cs ↔ ∀ c ∈ cs.head?, isBlank c = false := by
  cases cs with
  | nil => simp [stripStart]
  | cons c cs => simp [stripStart, List.dropWhile_eq_self_iff]

/-- `stripEnd` leaves a text as it is if it does not end with a blank. -/
theorem stripEnd_eq_self_iff {cs : List Char} :
    stripEnd cs = cs ↔ ∀ c ∈ cs.getLast?, isBlank c = false := by
  rw [← List.head?_reverse, ← stripStart_eq_self_iff, stripEnd, stripStart, List.reverse_eq_iff]

/-- No blank is left at the end. -/
theorem last_not_blank_stripEnd (cs : List Char) : ∀ c ∈ (stripEnd cs).getLast?, isBlank c = false := by
  intro c hc
  have hnot := List.head?_dropWhile_not isBlank cs.reverse
  rw [stripEnd, List.getLast?_reverse] at hc
  rw [Option.mem_def.mp hc] at hnot
  simpa using hnot

/-- The blanks at the end of a text are those at the end of its last piece, unless this has only
blanks. -/
theorem stripEnd_append (as bs : List Char) :
    stripEnd (as ++ bs) = if stripEnd bs = [] then stripEnd as else as ++ stripEnd bs := by
  simp only [stripEnd, List.reverse_append, List.dropWhile_append, List.reverse_eq_nil_iff,
    List.isEmpty_iff]
  split_ifs
  · rfl
  · rw [List.reverse_append, List.reverse_reverse]

/-- Nothing is left of blanks. -/
theorem stripEnd_eq_nil {cs : List Char} (h : ∀ c ∈ cs, isBlank c = true) : stripEnd cs = [] := by
  rw [stripEnd, List.reverse_eq_nil_iff, List.dropWhile_eq_nil_iff]
  simpa using h

/-- Of a piece that does not end with a blank nothing is removed. -/
theorem stripEnd_append_of_last {as : List Char} (h : ∀ c ∈ as.getLast?, isBlank c = false)
    (bs : List Char) : stripEnd (as ++ bs) = as ++ stripEnd bs := by
  rw [stripEnd_append]
  split_ifs with hnil
  · rw [stripEnd_eq_self_iff.mpr h, hnil, List.append_nil]
  · rfl

/-- A text is left as it is if it neither starts nor ends with a blank. -/
theorem strip_eq_self_iff {cs : List Char} :
    strip cs = cs ↔ (∀ c ∈ cs.head?, isBlank c = false) ∧ ∀ c ∈ cs.getLast?, isBlank c = false := by
  rw [← stripStart_eq_self_iff, ← stripEnd_eq_self_iff]
  constructor
  · intro h
    -- what is removed at one end cannot be made up for at the other
    have hend : (stripEnd (stripStart cs)).length ≤ (stripStart cs).length := by
      simpa [stripEnd] using
        (List.dropWhile_suffix (l := (stripStart cs).reverse) isBlank).length_le
    have hsuffix : stripStart cs <:+ cs := List.dropWhile_suffix isBlank
    have hstart : stripStart cs = cs := by
      refine hsuffix.eq_of_length (le_antisymm hsuffix.length_le ?_)
      rw [strip] at h
      rwa [h] at hend
    refine ⟨hstart, ?_⟩
    rwa [strip, hstart] at h
  · rintro ⟨hstart, hend⟩
    rw [strip, hstart, hend]

/-- The blanks around a text are removed. -/
theorem strip_append {as cs bs : List Char} (ha : ∀ c ∈ as, isBlank c = true)
    (hb : ∀ c ∈ bs, isBlank c = true) (h : strip cs = cs) (hne : cs ≠ []) :
    strip (as ++ cs ++ bs) = cs := by
  obtain ⟨hstart, hend⟩ := strip_eq_self_iff.mp h
  obtain ⟨c, cs', rfl⟩ := List.exists_cons_of_ne_nil hne
  have hfront : stripStart (as ++ (c :: cs') ++ bs) = (c :: cs') ++ bs := by
    rw [stripStart, List.append_assoc, dropWhile_append_eq ha]
    simpa using hstart
  have hback : ((c :: cs') ++ bs).reverse.dropWhile isBlank = (c :: cs').reverse := by
    rw [List.reverse_append, dropWhile_append_eq (by simpa using hb)]
    rwa [List.head?_reverse]
  rw [strip, hfront, stripEnd, hback, List.reverse_reverse]

/-- The characters that are not blank are all there after the blanks around a text are removed. -/
theorem count_strip {c : Char} (hc : isBlank c = false) (cs : List Char) :
    (strip cs).count c = cs.count c := by
  have hdrop (cs : List Char) : (cs.dropWhile isBlank).count c = cs.count c := by
    have htake : (cs.takeWhile isBlank).count c = 0 := by
      refine List.count_eq_zero.mpr fun hmem => ?_
      rw [List.mem_takeWhile_imp hmem] at hc
      cases hc
    have hsplit := congrArg (List.count c) (List.takeWhile_append_dropWhile (p := isBlank) (l := cs))
    rwa [List.count_append, htake, Nat.zero_add] at hsplit
  rw [strip, stripEnd, List.count_reverse, hdrop, List.count_reverse, stripStart, hdrop]

/-- Nothing is left exactly of blanks. -/
theorem strip_eq_nil_iff {cs : List Char} : strip cs = [] ↔ ∀ c ∈ cs, isBlank c = true := by
  constructor
  · intro h c hc
    by_contra hblank
    have hcount := count_strip (Bool.eq_false_iff.mpr hblank) cs
    rw [h, List.count_nil] at hcount
    exact List.count_eq_zero.mp hcount.symm hc
  · intro h
    rw [strip, stripStart, List.dropWhile_eq_nil_iff.mpr h]
    rfl

/-! ## Joined texts -/

/-- In joined texts there are no characters but theirs and the one between them. -/
theorem eq_or_exists_of_mem_intercalate {sep c : Char} {ts : List (List Char)}
    (h : c ∈ [sep].intercalate ts) : c = sep ∨ ∃ t ∈ ts, c ∈ t := by
  induction ts with
  | nil => simp at h
  | cons t ts ih =>
    cases ts with
    | nil => exact .inr ⟨t, List.mem_cons_self, by simpa using h⟩
    | cons t' ts =>
      rw [List.intercalate_cons_cons, List.mem_append, List.mem_append, List.mem_singleton] at h
      rcases h with (h | h) | h
      · exact .inr ⟨t, List.mem_cons_self, h⟩
      · exact .inl h
      · rcases ih h with h | ⟨u, hu, hc⟩
        · exact .inl h
        · exact .inr ⟨u, List.mem_cons_of_mem _ hu, hc⟩

/-! ## Blanks are no word characters -/

/-- The codes of the blank characters. -/
def blankCodes : List Nat :=
  List.range' 9 5 ++ List.range' 28 5 ++ [0x85, 0xa0, 0x1680] ++ List.range' 0x2000 11 ++
    [0x2028, 0x2029, 0x202f, 0x205f, 0x3000]

/-- The intervals of a table can be gone through by the characters that it is written with; to go
through those of the text itself is slow. -/
theorem all_ofLengths {p : Nat × Nat → Bool} {cs : List Char}
    (h : (CharTable.intervalsFrom 128 (CharTable.numbersFrom 0 (cs.filter (· != '\n')))).all p = true) :
    (CharTable.ofLengths (String.ofList cs)).toList.all p = true := by
  rwa [CharTable.ofLengths, String.toList_ofList]

set_option maxRecDepth 20000 in
/-- No range of letters and numerals holds a blank. -/
theorem letterOrNumeral_blankCodes :
    letterOrNumeral.toList.all (fun r => blankCodes.all fun n => n < r.1 || r.2 < n) = true :=
  all_ofLengths (by decide +kernel)

/-- Blanks are no word characters. -/
theorem isWord_of_isBlank {c : Char} (h : isBlank c = true) : isWord c = false := by
  have hcode : c.toNat ∈ blankCodes := by
    simp only [isBlank, Bool.or_eq_true, Bool.and_eq_true, decide_eq_true_eq, beq_iff_eq] at h
    simp only [blankCodes, List.mem_append, List.mem_range'_1, List.mem_cons, List.not_mem_nil]
    omega
  have hascii : blankCodes.all
      (fun n => Char.ofNat n != '_' && !(Char.ofNat n).isAlphanum) = true := by
    decide +kernel
  have hletter : letterOrNumeral.contains c = false := by
    rw [CharTable.contains, ← Array.any_toList, List.any_eq_false]
    intro r hr
    have hout := List.all_eq_true.mp (List.all_eq_true.mp letterOrNumeral_blankCodes r hr) _ hcode
    simp only [Bool.or_eq_true, Bool.and_eq_true, decide_eq_true_eq] at hout ⊢
    omega
  have hc := List.all_eq_true.mp hascii _ hcode
  rw [Char.ofNat_toNat, Bool.and_eq_true] at hc
  simpa [isWord, isLetterOrNumeral, hletter] using hc

/-- Word characters are not blank. -/
theorem isBlank_of_isWord {c : Char} (h : isWord c = true) : isBlank c = false := by
  by_contra hblank
  rw [isWord_of_isBlank (by simpa using hblank)] at h
  cases h

end Codebook.Text
