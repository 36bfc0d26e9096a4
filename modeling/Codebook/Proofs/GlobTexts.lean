import Mathlib
import Codebook.Glob

/-!
# The texts that a glob fits

`Glob.accepts` goes through a text from its end and keeps, for every end of it, whether the glob
matches that end. `Glob.Fits` says the same without marks: the items of the glob take the text one
character each, and every star takes a run of characters (`accepts_iff_fits`).

`Fits` has the characters that a star may take as a parameter, because globs are also written as
expressions in which a star stands for less than any run.
-/

namespace Codebook.Glob

/-! ## Matching one item at a time -/

/-- An item takes one character from each end. -/
theorem ends_item {i : Item} (hi : i ≠ .star) (g : Glob) (cs : List Char) :
    ends (i :: g) cs = afterItem i cs (ends g cs) := by
  cases i with
  | star => exact absurd rfl hi
  | one => rfl
  | char c => rfl
  | set negated members => rfl

/-- The marks for the ends of a text are those for the ends of the rest, and one more. -/
theorem exists_ends (g : Glob) :
    (∃ b, ends g [] = [b]) ∧ ∀ c cs, ∃ b, ends g (c :: cs) = b :: ends g cs := by
  induction g with
  | nil => exact ⟨⟨true, rfl⟩, fun c cs => ⟨false, rfl⟩⟩
  | cons i g ih =>
    obtain ⟨⟨b, hnil⟩, hcons⟩ := ih
    have hne : ∀ cs, ∃ b bs, ends g cs = b :: bs := by
      intro cs
      cases cs with
      | nil => exact ⟨b, [], hnil⟩
      | cons c cs => exact (hcons c cs).imp fun _ hb => ⟨_, hb⟩
    by_cases hi : i = .star
    · subst hi
      refine ⟨⟨_, by rw [ends, hnil]; rfl⟩, fun c cs => ?_⟩
      obtain ⟨b', hb'⟩ := hcons c cs
      exact ⟨_, by rw [ends, hb', orLater]; rfl⟩
    · simp only [ends_item hi]
      refine ⟨⟨_, by rw [hnil]; rfl⟩, fun c cs => ?_⟩
      obtain ⟨b', hb'⟩ := hcons c cs
      obtain ⟨b₁, bs, hbs⟩ := hne cs
      exact ⟨_, by rw [hb', hbs]; rfl⟩

/-- At the end only the empty rest is left. -/
theorem ends_nil (g : Glob) : ends g [] = [accepts g []] := by
  obtain ⟨b, hb⟩ := (exists_ends g).1
  rw [accepts, hb]
  rfl

/-- The ends of a text are those of its rest and one more. -/
theorem ends_cons (g : Glob) (c : Char) (cs : List Char) :
    ends g (c :: cs) = accepts g (c :: cs) :: ends g cs := by
  obtain ⟨b, hb⟩ := (exists_ends g).2 c cs
  rw [accepts, hb]
  rfl

@[simp] theorem accepts_nil (cs : List Char) : accepts [] cs = cs.isEmpty := by
  cases cs <;> rfl

/-- A star may take nothing. -/
theorem accepts_star_nil (g : Glob) : accepts (.star :: g) [] = accepts g [] := by
  rw [accepts, ends, ends_nil, orLater]
  simp [orLater]

/-- A star takes nothing, or one character and then more. -/
theorem accepts_star_cons (g : Glob) (c : Char) (cs : List Char) :
    accepts (.star :: g) (c :: cs) = (accepts g (c :: cs) || accepts (.star :: g) cs) := by
  rw [accepts, ends, ends_cons, orLater]
  rfl

/-- Another item takes a character. -/
theorem accepts_item_nil {i : Item} (hi : i ≠ .star) (g : Glob) : accepts (i :: g) [] = false := by
  rw [accepts, ends_item hi]
  rfl

/-- Another item takes one character that it admits. -/
theorem accepts_item_cons {i : Item} (hi : i ≠ .star) (g : Glob) (c : Char) (cs : List Char) :
    accepts (i :: g) (c :: cs) = (accepts g cs && i.admits c) := by
  rw [accepts, ends_item hi, ends_cons]
  cases cs with
  | nil => rw [ends_nil]; rfl
  | cons c' cs => rw [ends_cons]; rfl

/-! ## Fitting -/

section Runs

variable {run : Char → Bool} {p : List Char → Prop}

/-- An empty text is split in one way. -/
theorem exists_run_nil_iff :
    (∃ as bs, [] = as ++ bs ∧ (∀ c ∈ as, run c = true) ∧ p bs) ↔ p [] := by
  constructor
  · rintro ⟨as, bs, he, -, h⟩
    obtain ⟨rfl, rfl⟩ := List.append_eq_nil_iff.mp he.symm
    exact h
  · intro h
    exact ⟨[], [], rfl, fun _ hn => absurd hn List.not_mem_nil, h⟩

/-- A run at the start of a text is empty, or the first character and a run after it. -/
theorem exists_run_cons_iff {c : Char} {cs : List Char} :
    (∃ as bs, c :: cs = as ++ bs ∧ (∀ c ∈ as, run c = true) ∧ p bs) ↔
      p (c :: cs) ∨
        run c = true ∧ ∃ as bs, cs = as ++ bs ∧ (∀ c ∈ as, run c = true) ∧ p bs := by
  constructor
  · rintro ⟨as, bs, he, ha, h⟩
    rcases as with _ | ⟨a, as⟩
    · left
      rw [List.nil_append] at he
      exact he ▸ h
    · right
      obtain ⟨rfl, rfl⟩ := List.cons_eq_cons.mp he
      rw [List.forall_mem_cons] at ha
      exact ⟨ha.1, as, bs, rfl, ha.2, h⟩
  · rintro (h | ⟨hc, as, bs, rfl, ha, h⟩)
    · exact ⟨[], c :: cs, rfl, fun _ hn => absurd hn List.not_mem_nil, h⟩
    · exact ⟨c :: as, bs, rfl, List.forall_mem_cons.mpr ⟨hc, ha⟩, h⟩

end Runs

/-- The glob fits the whole text if each item takes one character that it admits, and each star a
run of characters that `run` allows. -/
inductive Fits (run : Char → Bool) : Glob → List Char → Prop
  | nil : Fits run [] []
  | item {i : Item} {g : Glob} {c : Char} {cs : List Char} (hi : i ≠ .star)
      (hc : i.admits c = true) (h : Fits run g cs) : Fits run (i :: g) (c :: cs)
  | star {g : Glob} {as cs : List Char} (ha : ∀ c ∈ as, run c = true) (h : Fits run g cs) :
      Fits run (.star :: g) (as ++ cs)

section Fitting

variable {run : Char → Bool} {g : Glob} {cs : List Char}

theorem fits_nil_iff : Fits run [] cs ↔ cs = [] := by
  constructor
  · intro h
    cases h
    rfl
  · rintro rfl
    exact .nil

/-- Another item fits one character that it admits. -/
theorem fits_item_iff {i : Item} (hi : i ≠ .star) :
    Fits run (i :: g) cs ↔ ∃ c cs', cs = c :: cs' ∧ i.admits c = true ∧ Fits run g cs' := by
  constructor
  · intro h
    cases h with
    | item _ hc h => exact ⟨_, _, rfl, hc, h⟩
    | star _ _ => exact absurd rfl hi
  · rintro ⟨c, cs', rfl, hc, h⟩
    exact .item hi hc h

/-- A star fits a run of characters. -/
theorem fits_star_iff :
    Fits run (.star :: g) cs ↔
      ∃ as bs, cs = as ++ bs ∧ (∀ c ∈ as, run c = true) ∧ Fits run g bs := by
  constructor
  · intro h
    cases h with
    | item hi _ _ => exact absurd rfl hi
    | star ha h => exact ⟨_, _, rfl, ha, h⟩
  · rintro ⟨as, bs, rfl, ha, h⟩
    exact .star ha h

/-- A star takes nothing, or the first character and then as before. -/
theorem fits_star_cons_iff {c : Char} :
    Fits run (.star :: g) (c :: cs) ↔
      Fits run g (c :: cs) ∨ run c = true ∧ Fits run (.star :: g) cs := by
  simp only [fits_star_iff]
  exact exists_run_cons_iff

/-- A star may fit nothing. -/
theorem fits_star_nil_iff : Fits run (.star :: g) [] ↔ Fits run g [] := by
  rw [fits_star_iff]
  exact exists_run_nil_iff

/-- A glob fits a text in two parts. -/
theorem fits_append_iff {g h : Glob} :
    Fits run (g ++ h) cs ↔ ∃ as bs, cs = as ++ bs ∧ Fits run g as ∧ Fits run h bs := by
  induction g generalizing cs with
  | nil => simp [fits_nil_iff]
  | cons i g ih =>
    rw [List.cons_append]
    by_cases hi : i = .star
    · subst hi
      simp only [fits_star_iff, ih]
      constructor
      · rintro ⟨as, _, rfl, ha, bs, bs', rfl, hb, hb'⟩
        exact ⟨as ++ bs, bs', by simp, ⟨as, bs, rfl, ha, hb⟩, hb'⟩
      · rintro ⟨_, bs', rfl, ⟨as, bs, rfl, ha, hb⟩, hb'⟩
        exact ⟨as, bs ++ bs', by simp, ha, bs, bs', rfl, hb, hb'⟩
    · simp only [fits_item_iff hi, ih]
      constructor
      · rintro ⟨c, _, rfl, hc, as, bs, rfl, ha, hb⟩
        exact ⟨c :: as, bs, rfl, ⟨c, as, rfl, hc, ha⟩, hb⟩
      · rintro ⟨_, bs, rfl, ⟨c, as, rfl, hc, ha⟩, hb⟩
        exact ⟨c, as ++ bs, rfl, hc, as, bs, rfl, ha, hb⟩

end Fitting

/-- A glob accepts the texts that it fits with any characters for the stars. -/
theorem accepts_iff_fits {g : Glob} {cs : List Char} :
    g.accepts cs = true ↔ Fits (fun _ => true) g cs := by
  induction g generalizing cs with
  | nil => simp [fits_nil_iff]
  | cons i g ih =>
    by_cases hi : i = .star
    · subst hi
      -- how much the star takes is found from the end of the text
      induction cs with
      | nil => rw [accepts_star_nil, fits_star_nil_iff, ih]
      | cons c cs ihcs =>
        rw [accepts_star_cons, fits_star_cons_iff, Bool.or_eq_true, ih, ihcs]
        simp
    · rw [fits_item_iff hi]
      cases cs with
      | nil => simp [accepts_item_nil hi]
      | cons c cs =>
        rw [accepts_item_cons hi, Bool.and_eq_true, ih, and_comm]
        simp

/-! ## Globs of characters and stars -/

/-- The item that a character writes, if only stars have a meaning of their own. -/
def itemOf (c : Char) : Item :=
  if c = '*' then .star else .char c

theorem itemOf_star : itemOf '*' = .star := rfl

theorem itemOf_of_ne {c : Char} (hc : c ≠ '*') : itemOf c = .char c := if_neg hc

/-- Reading a text of characters and stars. -/
theorem parseFrom_eq_map {cs : List Char} (hone : '?' ∉ cs) (hset : '[' ∉ cs) :
    parseFrom 0 cs = cs.map itemOf := by
  induction cs with
  | nil => rfl
  | cons c cs ih =>
    rw [List.mem_cons, not_or] at hone hset
    rw [List.map_cons, ← ih hone.2 hset.2]
    by_cases hc : c = '*'
    · subst hc
      rfl
    · rw [itemOf_of_ne hc, parseFrom]
      · exact hc
      · exact Ne.symm hone.1
      · exact Ne.symm hset.1

/-- A text without stars fits itself only. -/
theorem fits_map_itemOf_iff {run : Char → Bool} {lit cs : List Char} (hlit : '*' ∉ lit) :
    Fits run (lit.map itemOf) cs ↔ cs = lit := by
  induction lit generalizing cs with
  | nil => exact fits_nil_iff
  | cons c lit ih =>
    rw [List.mem_cons, not_or] at hlit
    rw [List.map_cons, itemOf_of_ne (Ne.symm hlit.1), fits_item_iff (by simp)]
    simp only [ih hlit.2, Item.admits, beq_iff_eq]
    constructor
    · rintro ⟨c', cs', rfl, rfl, rfl⟩
      rfl
    · rintro rfl
      exact ⟨c, lit, rfl, rfl, rfl⟩

/-- A text without wildcards accepts itself only. -/
theorem accepts_literal_iff {lit cs : List Char} (hstar : '*' ∉ lit) (hone : '?' ∉ lit)
    (hset : '[' ∉ lit) : (parseFrom 0 lit).accepts cs = true ↔ cs = lit := by
  rw [parseFrom_eq_map hone hset, accepts_iff_fits]
  exact fits_map_itemOf_iff hstar

/-- A glob that starts with a text without stars fits what starts with that text. -/
theorem fits_literal_append_iff {run : Char → Bool} {lit g cs : List Char} (hlit : '*' ∉ lit) :
    Fits run ((lit ++ g).map itemOf) cs ↔ ∃ rest, cs = lit ++ rest ∧ Fits run (g.map itemOf) rest := by
  rw [List.map_append, fits_append_iff]
  simp only [fits_map_itemOf_iff hlit]
  constructor
  · rintro ⟨_, rest, rfl, rfl, h⟩
    exact ⟨rest, rfl, h⟩
  · rintro ⟨rest, rfl, h⟩
    exact ⟨lit, rest, rfl, rfl, h⟩

/-- Stars alone fit every run. -/
theorem fits_replicate_star_iff {run : Char → Bool} {k : Nat} {cs : List Char} :
    Fits run (List.replicate (k + 1) .star) cs ↔ ∀ c ∈ cs, run c = true := by
  induction k generalizing cs with
  | zero =>
    simp only [zero_add, List.replicate_one, fits_star_iff, fits_nil_iff]
    constructor
    · rintro ⟨as, _, rfl, ha, rfl⟩
      simpa using ha
    · intro h
      exact ⟨cs, [], (List.append_nil cs).symm, h, rfl⟩
  | succ k ih =>
    rw [List.replicate_succ, fits_star_iff]
    simp only [ih]
    constructor
    · rintro ⟨as, bs, rfl, ha, hb⟩ c hc
      rcases List.mem_append.mp hc with hc | hc
      · exact ha c hc
      · exact hb c hc
    · intro h
      exact ⟨cs, [], (List.append_nil cs).symm, h, fun _ hn => absurd hn List.not_mem_nil⟩

/-- Stars between two texts without stars take what is between these texts. -/
theorem fits_around_iff {run : Char → Bool} {as bs cs : List Char} (ha : '*' ∉ as) (hb : '*' ∉ bs)
    {k : Nat} :
    Fits run ((as ++ List.replicate (k + 1) '*' ++ bs).map itemOf) cs ↔
      ∃ mid, cs = as ++ mid ++ bs ∧ ∀ c ∈ mid, run c = true := by
  rw [List.map_append, List.map_append, List.map_replicate, itemOf_star, fits_append_iff]
  simp only [fits_append_iff, fits_map_itemOf_iff ha, fits_map_itemOf_iff hb,
    fits_replicate_star_iff]
  constructor
  · rintro ⟨_, _, rfl, ⟨_, mid, rfl, rfl, hmid⟩, rfl⟩
    exact ⟨mid, rfl, hmid⟩
  · rintro ⟨mid, rfl, hmid⟩
    exact ⟨as ++ mid, bs, rfl, ⟨as, mid, rfl, rfl, hmid⟩, rfl⟩

/-- A text without its stars. -/
def bare (cs : List Char) : List Char :=
  cs.filter (· != '*')

/-- A text without stars is bare. -/
theorem bare_of_not_mem {cs : List Char} (h : '*' ∉ cs) : bare cs = cs := by
  refine List.filter_eq_self.mpr fun c hc => bne_iff_ne.mpr ?_
  rintro rfl
  exact h hc

/-- Nothing is left of stars only. -/
theorem bare_eq_nil_iff {cs : List Char} :
    bare cs = [] ↔ cs = List.replicate cs.length '*' := by
  rw [bare, List.filter_eq_nil_iff, List.eq_replicate_iff]
  simp

/-- A glob fits its text without the stars. -/
theorem fits_bare (run : Char → Bool) (cs : List Char) : Fits run (cs.map itemOf) (bare cs) := by
  induction cs with
  | nil => exact .nil
  | cons c cs ih =>
    by_cases hc : c = '*'
    · subst hc
      exact fits_star_iff.mpr ⟨[], bare cs, rfl, fun _ hn => absurd hn List.not_mem_nil, ih⟩
    · rw [List.map_cons, itemOf_of_ne hc, bare, List.filter_cons_of_pos (by simpa using hc)]
      exact .item (by simp) (by simp [Item.admits]) ih

/-- Stars only fit the empty text. -/
theorem fits_nil_text_iff {run : Char → Bool} {cs : List Char} :
    Fits run (cs.map itemOf) [] ↔ bare cs = [] := by
  constructor
  · intro h
    induction cs with
    | nil => rfl
    | cons c cs ih =>
      by_cases hc : c = '*'
      · subst hc
        exact ih (fits_star_nil_iff.mp h)
      · rw [List.map_cons, itemOf_of_ne hc, fits_item_iff (by simp)] at h
        obtain ⟨_, _, h, -⟩ := h
        cases h
  · intro h
    exact h ▸ fits_bare run cs

/-- A text that fits a glob starts with the first character that is no star, or with one that a star
took. -/
theorem Fits.head_eq {run : Char → Bool} {g cs rest : List Char} {y : Char}
    (h : Fits run (g.map itemOf) cs) (hg : bare g = y :: rest) :
    ∃ c cs', cs = c :: cs' ∧ (run c = true ∨ c = y) := by
  induction g generalizing cs with
  | nil => cases hg
  | cons c g ih =>
    by_cases hc : c = '*'
    · subst hc
      obtain ⟨as, bs, rfl, ha, hb⟩ := fits_star_iff.mp h
      cases as with
      | nil => exact ih hb hg
      | cons a as => exact ⟨a, as ++ bs, rfl, .inl (ha a List.mem_cons_self)⟩
    · rw [bare, List.filter_cons_of_pos (by simpa using hc)] at hg
      rw [List.map_cons, itemOf_of_ne hc, fits_item_iff (by simp)] at h
      obtain ⟨a, cs', rfl, ha, -⟩ := h
      refine ⟨a, cs', rfl, .inr ?_⟩
      rw [← (List.cons_eq_cons.mp hg).1]
      exact (beq_iff_eq.mp ha).symm

end Codebook.Glob
