import Mathlib
import Codebook.Proofs.GlobTexts

/-!
# Globs and slashes

A glob treats a slash as a character like any other, so a star or a set can take one. A text that a
glob fits therefore has at least as many slashes as the glob (`Fits.count_le`), and exactly as many if
none was taken: then the glob fits part by part, with both cut at their slashes
(`forall₂_splitOn_iff`).

`splitOn_parseFrom` says that cutting a glob at its slashes is cutting its text, as long as no slash
of the text stands between brackets. Where a star is, anything can be put in (`Fits.exists_gap`).
-/

namespace Codebook.Glob

/-! ## Cutting lists -/

section Cutting

variable {α β : Type}

/-- There is one part more than separators. -/
theorem length_splitOn [DecidableEq α] (x : α) (l : List α) :
    (l.splitOn x).length = l.count x + 1 := by
  induction l with
  | nil => simp
  | cons a l ih =>
    rw [List.splitOn_cons_eq_if_modifyHead]
    by_cases ha : a = x
    · simp [ha, ih]
    · simp [ha, ih]

/-- What stands before the first cut goes to the first piece. -/
theorem splitOn_append_of_not_mem [DecidableEq α] {x : α} {as : List α} (h : x ∉ as) (l : List α) :
    (as ++ l).splitOn x = (l.splitOn x).modifyHead (as ++ ·) := by
  induction as with
  | nil => cases hl : l.splitOn x <;> simp [hl]
  | cons a as ih =>
    rw [List.mem_cons, not_or] at h
    have ha : (a == x) = false := by simpa using Ne.symm h.1
    rw [List.cons_append, List.splitOn_cons_eq_if_modifyHead, ha, ih h.2]
    simp [List.modifyHead_modifyHead, Function.comp_def]

/-- Related lists stay related when their heads are changed alike. -/
theorem forall₂_modifyHead {R : α → β → Prop} {f : α → α} {f' : β → β}
    (hf : ∀ a b, R a b → R (f a) (f' b)) {as : List α} {bs : List β} (h : List.Forall₂ R as bs) :
    List.Forall₂ R (as.modifyHead f) (bs.modifyHead f') := by
  cases h with
  | nil => exact .nil
  | cons hab h => exact .cons (hf _ _ hab) h

end Cutting

/-! ## Slashes that a glob takes -/

section Slashes

variable {run : Char → Bool} {g : Glob} {cs : List Char}

/-- A slash admits a slash only. -/
theorem eq_slash_of_admits {c : Char} (h : (Item.char '/').admits c = true) : c = '/' :=
  (beq_iff_eq.mp h).symm

/-- A text has at least the slashes of a glob that fits it. -/
theorem Fits.count_le (h : Fits run g cs) : g.count (.char '/') ≤ cs.count '/' := by
  induction h with
  | nil => simp
  | @item i g c cs hi hc h ih =>
    by_cases hs : i = .char '/'
    · subst hs
      rw [eq_slash_of_admits hc, List.count_cons_self, List.count_cons_self]
      omega
    · rw [List.count_cons_of_ne hs]
      exact ih.trans List.count_le_count_cons
  | @star g as cs ha h ih =>
    rw [List.count_cons_of_ne (by simp), List.count_append]
    omega

/-- If no star and no set takes a slash, the glob fits part by part. -/
theorem Fits.forall₂_splitOn (h : Fits run g cs) (hc : cs.count '/' = g.count (.char '/')) :
    List.Forall₂ (Fits run) (g.splitOn (.char '/')) (cs.splitOn '/') := by
  induction h with
  | nil => simpa using Fits.nil
  | @item i g c cs hi hadm h ih =>
    by_cases hs : i = .char '/'
    · subst hs
      have hslash := eq_slash_of_admits hadm
      subst hslash
      rw [List.count_cons_self, List.count_cons_self, Nat.add_right_cancel_iff] at hc
      simpa [List.splitOn_cons_eq_if_modifyHead] using ⟨.nil, ih hc⟩
    · rw [List.count_cons_of_ne hs] at hc
      -- were the character a slash, the rest would have too few of them
      have hne : c ≠ '/' := by
        rintro rfl
        have hle := h.count_le
        rw [List.count_cons_self] at hc
        omega
      rw [List.count_cons_of_ne hne] at hc
      have hparts := forall₂_modifyHead (fun g' cs' (h' : Fits run g' cs') =>
        Fits.item hi hadm h') (ih hc)
      simpa [List.splitOn_cons_eq_if_modifyHead, hs, hne] using hparts
  | @star g as cs ha h ih =>
    rw [List.count_cons_of_ne (by simp), List.count_append] at hc
    have hle := h.count_le
    have hnot : '/' ∉ as := List.count_eq_zero.mp (by omega)
    have hparts := forall₂_modifyHead (fun g' cs' (h' : Fits run g' cs') => Fits.star ha h')
      (ih (by omega))
    rw [splitOn_append_of_not_mem hnot]
    simpa [List.splitOn_cons_eq_if_modifyHead] using hparts

/-- Globs that fit the parts fit, joined by slashes, the text. -/
theorem fits_intercalate {gs : List Glob} {ts : List (List Char)}
    (h : List.Forall₂ (Fits run) gs ts) :
    Fits run ([Item.char '/'].intercalate gs) (['/'].intercalate ts) := by
  induction h with
  | nil => exact .nil
  | @cons g t gs ts hgt h ih =>
    cases h with
    | nil => simpa using hgt
    | cons _ _ =>
      rw [List.intercalate_cons_cons, List.intercalate_cons_cons]
      refine fits_append_iff.mpr ⟨_, _, rfl, fits_append_iff.mpr ⟨t, ['/'], rfl, hgt, ?_⟩, ih⟩
      exact .item (by simp) (by simp [Item.admits]) .nil

/-- A glob fits part by part exactly if it fits and takes no slash with a star or a set. -/
theorem forall₂_splitOn_iff :
    List.Forall₂ (Fits run) (g.splitOn (.char '/')) (cs.splitOn '/') ↔
      Fits run g cs ∧ (cs.splitOn '/').length = (g.splitOn (.char '/')).length := by
  constructor
  · intro h
    have hfits := fits_intercalate h
    rw [List.intercalate_splitOn, List.intercalate_splitOn] at hfits
    exact ⟨hfits, h.length_eq.symm⟩
  · rintro ⟨h, hlen⟩
    rw [length_splitOn, length_splitOn, Nat.add_right_cancel_iff] at hlen
    exact h.forall₂_splitOn hlen

/-- A glob of single characters takes no slash that it does not have. -/
theorem Fits.count_eq_of_char (hg : ∀ i ∈ g, ∃ c, i = .char c) (h : Fits run g cs) :
    cs.count '/' = g.count (.char '/') := by
  induction h with
  | nil => simp
  | @item i g c cs hi hc h ih =>
    rw [List.forall_mem_cons] at hg
    obtain ⟨⟨a, rfl⟩, hg⟩ := hg
    obtain rfl : a = c := by simpa [Item.admits] using hc
    simp [List.count_cons, ih hg]
  | star ha h ih =>
    obtain ⟨c, hc⟩ := hg .star List.mem_cons_self
    cases hc

/-- In a text that a glob with a star fits there is a place where anything that a star may take can be
put in. -/
theorem Fits.exists_gap (hstar : Item.star ∈ g) (h : Fits run g cs) :
    ∃ as bs, cs = as ++ bs ∧
      ∀ mid, (∀ c ∈ mid, run c = true) → Fits run g (as ++ mid ++ bs) := by
  obtain ⟨u, v, rfl⟩ := List.append_of_mem hstar
  obtain ⟨as, rest, rfl, hu, h⟩ := fits_append_iff.mp h
  obtain ⟨taken, bs, rfl, htaken, hv⟩ := fits_star_iff.mp h
  refine ⟨as ++ taken, bs, (List.append_assoc _ _ _).symm, fun mid hmid => ?_⟩
  refine fits_append_iff.mpr ⟨as, taken ++ mid ++ bs, by simp, hu, ?_⟩
  refine .star (fun c hc => ?_) hv
  rcases List.mem_append.mp hc with hc | hc
  · exact htaken c hc
  · exact hmid c hc

end Slashes

/-! ## Slashes between brackets -/

/-- Reading up to a closing bracket stops at it, whatever follows. -/
theorem takeWhile_append_of_mem {cs : List Char} (h : ']' ∈ cs) (rest : List Char) :
    (cs ++ rest).takeWhile (· != ']') = cs.takeWhile (· != ']') ∧
      (cs.takeWhile (· != ']')).length < cs.length := by
  have hlt : (cs.takeWhile (· != ']')).length < cs.length := by
    refine lt_of_le_of_ne (List.takeWhile_prefix _).length_le fun he => ?_
    have hall := List.takeWhile_eq_self_iff.mp ((List.takeWhile_prefix _).eq_of_length he)
    simpa using hall ']' h
  exact ⟨by rw [List.takeWhile_append, if_neg (ne_of_lt hlt)], hlt⟩

/-- A bracket at the start of a set closes nothing; the first one after it does. -/
theorem exists_setBody?_append (as : List Char) :
    ∃ first rest, as = first ++ rest ∧ ∀ ys : List Char, ys.head? ≠ some ']' →
      setBody? (as ++ ys) = if (rest ++ ys).contains ']' then
        some (first ++ (rest ++ ys).takeWhile (· != ']')) else none := by
  rcases as with _ | ⟨a, as⟩
  · exact ⟨[], [], rfl, fun ys hys => by simp [setBody?, hys]⟩
  · by_cases ha : a = ']'
    · subst ha
      exact ⟨[']'], as, rfl, fun ys _ => by simp [setBody?]⟩
    · exact ⟨[], a :: as, rfl, fun ys _ => by simp [setBody?, ha]⟩

/-- The bracket that closes a set stands before a slash that follows, or the slash is in the set. -/
theorem setBody?_append_slash (as bs : List Char) :
    (∃ body, setBody? as = some body ∧ setBody? (as ++ '/' :: bs) = some body ∧
        body.length < as.length) ∨
      setBody? as = none ∧ ∀ body, setBody? (as ++ '/' :: bs) = some body →
        as.length < body.length := by
  obtain ⟨first, rest, has, hbody⟩ := exists_setBody?_append as
  have hself := hbody [] (by simp)
  rw [List.append_nil, List.append_nil] at hself
  rw [hbody ('/' :: bs) (by simp), hself]
  by_cases hmem : ']' ∈ rest
  · left
    obtain ⟨htake, hlt⟩ := takeWhile_append_of_mem hmem ('/' :: bs)
    refine ⟨first ++ rest.takeWhile (· != ']'), by simp [hmem], by simp [htake, hmem], ?_⟩
    rw [has, List.length_append, List.length_append]
    omega
  · right
    refine ⟨by simp [hmem], fun body h => ?_⟩
    have htake : (rest ++ '/' :: bs).takeWhile (· != ']') =
        rest ++ '/' :: bs.takeWhile (· != ']') := by
      rw [List.takeWhile_append_of_pos fun c hc => ?_]
      · simp
      · simpa using fun he : c = ']' => hmem (he ▸ hc)
    split_ifs at h
    rw [← Option.some.inj h, htake, has]
    simp only [List.length_append, List.length_cons]
    omega

/-- Members make a set. -/
theorem exists_setOf (ms : List Member) : ∃ negated ms', setOf ms = .set negated ms' := by
  unfold setOf
  split <;> exact ⟨_, _, rfl⟩

/-- A set is read from its body, which follows an exclamation mark if there is one. -/
theorem exists_set?_append (as : List Char) :
    ∃ (k : Nat) (as' : List Char) (item : List Char → Item), as.length = as'.length + k ∧
      (∀ body, item body ≠ .char '/') ∧
      ∀ ys : List Char, ys.head? ≠ some '!' →
        set? (as ++ ys) = (setBody? (as' ++ ys)).map fun body => (item body, body.length + k + 1) := by
  have hset : ∀ body, setOf (members body) ≠ .char '/' := by
    intro body h
    obtain ⟨_, _, he⟩ := exists_setOf (members body)
    rw [he] at h
    cases h
  rcases as with _ | ⟨a, as⟩
  · refine ⟨0, [], fun body => setOf (members body), rfl, hset, fun ys hys => ?_⟩
    rcases ys with _ | ⟨y, ys⟩
    · rfl
    · have hy : y ≠ '!' := by simpa using hys
      simp [set?, hy]
  · by_cases ha : a = '!'
    · subst ha
      exact ⟨1, as, fun body => .set true (members body), rfl, by simp, fun ys _ => rfl⟩
    · exact ⟨0, a :: as, fun body => setOf (members body), rfl, hset,
        fun ys _ => by simp [set?, ha]⟩

/-- A set that is read before a slash ends before it, or the slash is in the set. -/
theorem set?_append_slash (as bs : List Char) :
    (∃ item len, set? as = some (item, len) ∧ set? (as ++ '/' :: bs) = some (item, len) ∧
        len ≤ as.length) ∨
      set? as = none ∧ ∀ item len, set? (as ++ '/' :: bs) = some (item, len) → as.length < len := by
  obtain ⟨k, as', item, hlen, -, hset⟩ := exists_set?_append as
  have hself := hset [] (by simp)
  rw [List.append_nil, List.append_nil] at hself
  rw [hset ('/' :: bs) (by simp), hself]
  rcases setBody?_append_slash as' bs with ⟨body, h, h', hlt⟩ | ⟨h, h'⟩
  · left
    exact ⟨item body, body.length + k + 1, by rw [h]; rfl, by rw [h']; rfl, by omega⟩
  · right
    refine ⟨by rw [h]; rfl, fun item' len hmap => ?_⟩
    obtain ⟨body, hbody, he⟩ := Option.map_eq_some_iff.mp hmap
    obtain ⟨-, rfl⟩ := Prod.mk.inj he
    have hlt := h' body hbody
    omega

/-- A set is no slash. -/
theorem set?_ne_slash {cs : List Char} {i : Item} {len : Nat} (h : set? cs = some (i, len)) :
    i ≠ .char '/' := by
  obtain ⟨k, as', item, -, hne, hset⟩ := exists_set?_append cs
  rw [← List.append_nil cs, hset [] (by simp)] at h
  obtain ⟨body, -, he⟩ := Option.map_eq_some_iff.mp h
  exact (Prod.mk.inj he).1 ▸ hne body

/-! ## Reading part by part -/

/-- A character other than an opening bracket is read by itself. -/
theorem exists_parseFrom_cons {c : Char} (hc : c ≠ '[') :
    ∃ i : Item, (i = .char '/' ↔ c = '/') ∧ ∀ cs, parseFrom 0 (c :: cs) = i :: parseFrom 0 cs := by
  by_cases hstar : c = '*'
  · subst hstar
    exact ⟨.star, by simp, fun cs => rfl⟩
  · by_cases hone : c = '?'
    · subst hone
      exact ⟨.one, by simp, fun cs => rfl⟩
    · exact ⟨.char c, by simp, fun cs => by rw [parseFrom] <;> assumption⟩

/-- A bracket that opens a set is read as the set. -/
theorem parseFrom_of_set {cs : List Char} {i : Item} {len : Nat} (h : set? cs = some (i, len)) :
    parseFrom 0 ('[' :: cs) = i :: parseFrom len cs := by
  rw [parseFrom, h]

/-- Every other bracket stands for itself. -/
theorem parseFrom_of_no_set {cs : List Char} (h : set? cs = none) :
    parseFrom 0 ('[' :: cs) = .char '[' :: parseFrom 0 cs := by
  rw [parseFrom, h]

/-- Reading a text makes no slash that was not there. -/
theorem count_parseFrom_le (skip : Nat) (cs : List Char) :
    (parseFrom skip cs).count (.char '/') ≤ (cs.drop skip).count '/' := by
  induction cs generalizing skip with
  | nil => simp [parseFrom]
  | cons c cs ih =>
    cases skip with
    | succ skip => exact ih skip
    | zero =>
      have hzero := ih 0
      rw [List.drop_zero] at hzero ⊢
      by_cases hc : c = '['
      · subst hc
        rw [List.count_cons_of_ne (by decide)]
        cases hs : set? cs with
        | none =>
          rw [parseFrom_of_no_set hs, List.count_cons_of_ne (by simp)]
          exact hzero
        | some r =>
          obtain ⟨i, len⟩ := r
          rw [parseFrom_of_set hs, List.count_cons_of_ne (set?_ne_slash hs)]
          exact (ih len).trans ((List.drop_sublist len cs).count_le '/')
      · obtain ⟨i, hi, hparse⟩ := exists_parseFrom_cons hc
        rw [hparse]
        by_cases hslash : c = '/'
        · rw [hi.mpr hslash, hslash, List.count_cons_self, List.count_cons_self]
          omega
        · rw [List.count_cons_of_ne (hi.not.mpr hslash), List.count_cons_of_ne hslash]
          exact hzero

/-- A slash that is not in a set cuts the reading in two. -/
theorem parseFrom_append_slash (bs : List Char) {as : List Char} (has : '/' ∉ as) {skip : Nat}
    (hskip : skip ≤ as.length)
    (hc : (parseFrom skip (as ++ '/' :: bs)).count (.char '/') = bs.count '/' + 1) :
    parseFrom skip (as ++ '/' :: bs) = parseFrom skip as ++ .char '/' :: parseFrom 0 bs := by
  induction as generalizing skip with
  | nil =>
    obtain rfl : skip = 0 := by simpa using hskip
    rfl
  | cons c as ih =>
    rw [List.mem_cons, not_or] at has
    cases skip with
    | succ skip => exact ih has.2 (by simpa using hskip) hc
    | zero =>
      by_cases hb : c = '['
      · subst hb
        rw [List.cons_append] at hc ⊢
        rcases set?_append_slash as bs with ⟨i, len, hs, hs', hlen⟩ | ⟨hs, hs'⟩
        · rw [parseFrom_of_set hs', List.count_cons_of_ne (set?_ne_slash hs')] at hc
          rw [parseFrom_of_set hs, parseFrom_of_set hs', ih has.2 hlen hc, List.cons_append]
        · cases hlong : set? (as ++ '/' :: bs) with
          | none =>
            rw [parseFrom_of_no_set hlong, List.count_cons_of_ne (by simp)] at hc
            rw [parseFrom_of_no_set hs, parseFrom_of_no_set hlong, ih has.2 (Nat.zero_le _) hc,
              List.cons_append]
          | some r =>
            -- the slash is in the set, so that there are too few slashes after it
            obtain ⟨i, len⟩ := r
            have hlen := hs' i len hlong
            rw [parseFrom_of_set hlong, List.count_cons_of_ne (set?_ne_slash hlong)] at hc
            have hle := count_parseFrom_le len (as ++ '/' :: bs)
            have hdrop : (as ++ '/' :: bs).drop len = bs.drop (len - as.length - 1) := by
              rw [List.drop_append, List.drop_eq_nil_of_le hlen.le, List.nil_append,
                show len - as.length = len - as.length - 1 + 1 by omega, List.drop_succ_cons]
              rfl
            have hrest := (List.drop_sublist (len - as.length - 1) bs).count_le '/'
            rw [hdrop] at hle
            omega
      · obtain ⟨i, hi, hparse⟩ := exists_parseFrom_cons hb
        rw [List.cons_append, hparse, List.count_cons_of_ne (hi.not.mpr (Ne.symm has.1))] at hc
        rw [List.cons_append, hparse, hparse, ih has.2 (Nat.zero_le _) hc, List.cons_append]

/-- Every slash of the text stands for itself: none is between brackets. -/
def SlashesApart (cs : List Char) : Prop :=
  (parseFrom 0 cs).count (.char '/') = cs.count '/'

/-- Where no slash is between brackets, the parts of the glob are what the parts of the text write. -/
theorem splitOn_parseFrom {cs : List Char} (h : SlashesApart cs) :
    (parseFrom 0 cs).splitOn (.char '/') = (cs.splitOn '/').map (parseFrom 0) := by
  induction hn : cs.length using Nat.strong_induction_on generalizing cs with
  | _ n ih =>
    unfold SlashesApart at h
    by_cases hmem : '/' ∈ cs
    · obtain ⟨as, bs, rfl, has⟩ := List.eq_append_cons_of_mem hmem
      have hzero : as.count '/' = 0 := List.count_eq_zero.mpr has
      rw [List.count_append, List.count_cons_self, hzero, Nat.zero_add] at h
      have hparse := parseFrom_append_slash bs has (Nat.zero_le _) h
      have hle := count_parseFrom_le 0 as
      rw [List.drop_zero, hzero] at hle
      have hnot : Item.char '/' ∉ parseFrom 0 as := List.count_eq_zero.mp (by omega)
      rw [hparse, List.count_append, List.count_cons_self] at h
      have hbs : SlashesApart bs := by
        unfold SlashesApart
        omega
      rw [hparse, List.splitOn_append_cons_self_of_not_mem hnot,
        List.splitOn_append_cons_self_of_not_mem has, List.map_cons,
        ih bs.length (by rw [← hn]; simp; omega) hbs rfl]
    · have hle := count_parseFrom_le 0 cs
      rw [List.drop_zero, List.count_eq_zero.mpr hmem] at hle
      have hnot : Item.char '/' ∉ parseFrom 0 cs := List.count_eq_zero.mp (by omega)
      rw [List.splitOn_eq_singleton hnot, List.splitOn_eq_singleton hmem, List.map_singleton]

end Codebook.Glob
