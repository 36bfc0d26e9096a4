import Mathlib
import Codebook.Proofs.GlobTexts
import Codebook.Regex.Match

/-!
# Expressions for globs of characters and stars

An expression is written for a glob character by character: a dot is quoted, a star becomes a
repetition, and all else stands for itself. `Filler` is what the star repeats: any character, or a
quoted dot.

* `parse_expressionText`: such a text is read as the sequence of its items.
* `matchesStart_iff_fits`: the expression matches at the start of a text exactly if some start of the
  text fits the glob with the characters of the filler for its stars. Nothing is asked of what comes
  after that start.
-/

namespace Codebook.Regex

open Text

/-- The characters that mean something else than themselves in an expression. -/
def specials : List Char :=
  ['\\', '.', '*', '+', '?', '[', '(', ')', '\x7b', '|', '^', '$']

/-- What is repeated in place of a star. -/
inductive Filler
  | anything
  | dots
  deriving DecidableEq, Repr

namespace Filler

/-- The characters that can be repeated. -/
def takes : Filler → Char → Bool
  | .anything, c => c != '\n'
  | .dots, c => c == '.'

/-- The text of the repeated item. -/
def text : Filler → List Char
  | .anything => ['.']
  | .dots => ['\\', '.']

/-- The repeated item. -/
def item : Filler → Regex
  | .anything => .any
  | .dots => .code '.'.toNat

end Filler

/-- What is written for a character of a glob. -/
def charText (filler : Filler) (c : Char) : List Char :=
  if c = '*' then filler.text ++ ['*'] else if c = '.' then ['\\', '.'] else [c]

/-- The text that is written for a glob. -/
def expressionText (filler : Filler) (g : List Char) : List Char :=
  g.flatMap (charText filler)

/-- The item for a character of a glob. -/
def charItem (filler : Filler) (c : Char) : Regex :=
  if c = '*' then .rep 0 none .greedy filler.item else .code c.toNat

/-! ## Steps of the reader -/

section Steps

variable {s : Reader} {t : Token} {ts : List Token}

/-- What follows can neither be a lone backslash nor belong to a repetition before it. -/
def Calm (ts : List Token) : Prop :=
  ∀ t ∈ ts.head?, t.text ≠ ['\\'] ∧ t.text ≠ ['?'] ∧ t.text ≠ ['+']

/-- At the end there is nothing to trip over. -/
theorem calm_nil : Calm [] := fun _ h => by simp at h

/-- Nor is there before a token that is none of the three. -/
theorem calm_cons {p : Nat} {text : List Char}
    (h : text ≠ ['\\'] ∧ text ≠ ['?'] ∧ text ≠ ['+']) : Calm (⟨p, text⟩ :: ts) := by
  intro t ht
  obtain rfl : ⟨p, text⟩ = t := by simpa using ht
  exact h

/-- After a step that succeeds, the reader goes on from the state it leaves. -/
theorem run_bind_of_ok {α β : Type} {x : Read α} {f : α → Read β} {a : α} {s' : Reader}
    (h : x.run s = .ok (a, s')) : (x >>= f).run s = (f a).run s' := by
  rw [StateT.run_bind, h]
  rfl

/-- The next token is looked at and left. -/
theorem run_peek (s : Reader) : peek.run s = .ok (s.rest.head?.map Token.text, s) := by
  obtain ⟨_, _, rest, _⟩ := s
  cases rest <;> rfl

/-- The place of the next token is told. -/
theorem run_tell (hs : s.rest = t :: ts) : tell.run s = .ok (t.position, s) := by
  simp only [tell, StateT.run_bind, StateT.run_get, pure_bind, hs]
  rfl

/-- Another token is not accepted. -/
theorem run_accept (c : Char) (h : ∀ u ∈ s.rest.head?, u.text ≠ [c]) :
    (accept c).run s = .ok (false, s) := by
  have hne : ¬ (s.rest.head?.map Token.text == some [c]) = true := by
    cases hr : s.rest.head? with
    | none => simp
    | some u => simpa using h u hr
  rw [accept, run_bind_of_ok (run_peek s), if_neg hne]
  rfl

/-- A calm rest passes the check. -/
theorem run_checkNext (h : Calm s.rest) : checkNext.run s = .ok ((), s) := by
  simp only [checkNext, StateT.run_bind, StateT.run_get, pure_bind]
  split
  · rename_i hs
    rw [hs] at h
    exact absurd rfl (h _ rfl).1
  · rfl

/-- The next token is taken. -/
theorem run_take (hs : s.rest = t :: ts) (h : Calm ts) :
    Regex.take.run s = .ok (some t.text, { s with rest := ts }) := by
  have hcheck : checkNext.run { s with rest := ts } = .ok ((), { s with rest := ts }) :=
    run_checkNext h
  simp only [Regex.take, StateT.run_bind, StateT.run_get, pure_bind, hs, StateT.run_modify, hcheck]
  rfl

/-- At the end there is no sign. -/
theorem run_sign_nil (v : Bool) (hs : s.rest = []) : (sign v).run s = .ok (.stop, s) := by
  rw [sign, run_bind_of_ok (run_peek s), hs]
  rfl

/-- A token that ends no branch is a sign. -/
theorem run_sign_cons {v : Bool} (hs : s.rest = t :: ts) (h : Calm ts) (hbar : t.text ≠ ['|'])
    (hclose : t.text ≠ [')']) :
    (sign v).run s = (signOfToken v t.position t.text).run { s with rest := ts } := by
  have hgo : ¬ (t.text == ['|'] || t.text == [')']) = true := by simp [hbar, hclose]
  rw [sign, run_bind_of_ok (run_peek s), hs]
  simp only [List.head?_cons, Option.map_some]
  rw [if_neg hgo, run_bind_of_ok (run_tell hs), run_bind_of_ok (run_take hs h)]

/-- A character without a meaning of its own is an item. -/
theorem signOf_of_literal {c : Char} (hc : c ∉ specials) (p : Nat) :
    signOf p c = pure (.item (.code c.toNat)) := by
  simp only [specials, List.mem_cons, List.not_mem_nil, not_or] at hc
  unfold signOf
  split <;> simp_all

/-- A token of one character is read as that character. -/
theorem signOfToken_single (p : Nat) (c : Char) : signOfToken false p [c] = signOf p c := rfl

/-- The items that a repetition can repeat. -/
theorem run_repeated (hs : Calm s.rest) (filler : Filler) (p : Nat) (got : List Regex) :
    (repeated p 0 none (filler.item :: got)).run s =
      .ok (.rep 0 none .greedy filler.item :: got, s) := by
  have hmood : mood.run s = .ok (.greedy, s) := by
    rw [mood, run_bind_of_ok (run_accept '?' fun u hu => (hs u hu).2.1), if_neg Bool.false_ne_true,
      run_bind_of_ok (run_accept '+' fun u hu => (hs u hu).2.2), if_neg Bool.false_ne_true]
    rfl
  cases filler with
  | anything => exact run_bind_of_ok hmood
  | dots => exact run_bind_of_ok hmood

/-! ### One item of a sequence -/

variable {first : Bool} {got : List Regex} {n p : Nat}

/-- An item is added to the sequence. -/
theorem run_sequence_item {r : Regex} {s' : Reader} (h : (sign false).run s = .ok (.item r, s')) :
    (sequence false first got (n + 1)).run s = (sequence false first (r :: got) n).run s' := by
  rw [sequence, run_bind_of_ok h]

/-- A character that is not special stands for itself. -/
theorem run_sequence_literal {c : Char} (hc : c ∉ specials) (hs : s.rest = ⟨p, [c]⟩ :: ts)
    (h : Calm ts) :
    (sequence false first got (n + 1)).run s =
      (sequence false first (.code c.toNat :: got) n).run { s with rest := ts } := by
  have hbar : c ≠ '|' := fun he => hc (by simp [he, specials])
  have hclose : c ≠ ')' := fun he => hc (by simp [he, specials])
  refine run_sequence_item ?_
  rw [run_sign_cons hs h (by simpa using hbar) (by simpa using hclose)]
  rw [signOfToken_single, signOf_of_literal hc]
  rfl

/-- A quoted period stands for a period. -/
theorem run_sequence_quoted (hs : s.rest = ⟨p, ['\\', '.']⟩ :: ts) (h : Calm ts) :
    (sequence false first got (n + 1)).run s =
      (sequence false first (.code '.'.toNat :: got) n).run { s with rest := ts } := by
  refine run_sequence_item ?_
  rw [run_sign_cons hs h (by simp) (by simp)]
  rfl

/-- A period stands for any character. -/
theorem run_sequence_any (hs : s.rest = ⟨p, ['.']⟩ :: ts) (h : Calm ts) :
    (sequence false first got (n + 1)).run s =
      (sequence false first (.any :: got) n).run { s with rest := ts } := by
  refine run_sequence_item ?_
  rw [run_sign_cons hs h (by simp) (by simp)]
  rfl

/-- The filler is read as its item. -/
theorem run_sequence_filler (filler : Filler) (hs : s.rest = ⟨p, filler.text⟩ :: ts)
    (h : Calm ts) :
    (sequence false first got (n + 1)).run s =
      (sequence false first (filler.item :: got) n).run { s with rest := ts } := by
  cases filler with
  | anything => exact run_sequence_any hs h
  | dots => exact run_sequence_quoted hs h

/-- A star repeats the filler in front of it. -/
theorem run_sequence_star (filler : Filler) (hs : s.rest = ⟨p, ['*']⟩ :: ts) (h : Calm ts) :
    (sequence false first (filler.item :: got) (n + 1)).run s =
      (sequence false first (.rep 0 none .greedy filler.item :: got) n).run
        { s with rest := ts } := by
  have hsign : (sign false).run s = .ok (.repetition p 0 none, { s with rest := ts }) := by
    rw [run_sign_cons hs h (by simp) (by simp)]
    rfl
  rw [sequence, run_bind_of_ok hsign]
  exact run_bind_of_ok (run_repeated (s := { s with rest := ts }) h filler p got)

end Steps

/-! ## Reading the text of a glob -/

/-- A character that is no backslash is a token. -/
theorem tokensFrom_cons {c : Char} (hc : c ≠ '\\') (p : Nat) (cs : List Char) :
    tokensFrom p (c :: cs) = ⟨p, [c]⟩ :: tokensFrom (p + 1) cs := by
  rw [tokensFrom]
  rintro _ _ rfl
  exact absurd rfl hc

/-- A glob whose characters can be written as they are, apart from dots and stars. -/
def IsWritable (g : List Char) : Prop :=
  ∀ c ∈ g, c = '*' ∨ c = '.' ∨ c ∉ specials

instance (g : List Char) : Decidable (IsWritable g) :=
  List.decidableBAll (fun c => c = '*' ∨ c = '.' ∨ c ∉ specials) g

/-- What follows the first character is writable too. -/
theorem IsWritable.tail {c : Char} {g : List Char} (h : IsWritable (c :: g)) : IsWritable g :=
  fun x hx => h x (List.mem_cons_of_mem c hx)

/-- A character that is not special is written as it is. -/
theorem charText_literal {c : Char} (hc : c ∉ specials) (filler : Filler) :
    charText filler c = [c] := by
  have hstar : c ≠ '*' := fun he => hc (by simp [he, specials])
  have hdot : c ≠ '.' := fun he => hc (by simp [he, specials])
  rw [charText, if_neg hstar, if_neg hdot]

/-- Every character but the star stands for itself. -/
theorem charItem_of_ne (filler : Filler) {c : Char} (hc : c ≠ '*') :
    charItem filler c = .code c.toNat := if_neg hc

/-- The text of a glob never starts in a way that would change what is before it. -/
theorem calm_expressionText (filler : Filler) (p : Nat) :
    ∀ {g : List Char}, IsWritable g → Calm (tokensFrom p (expressionText filler g))
  | [], _ => calm_nil
  | c :: g, h => by
    rw [expressionText, List.flatMap_cons]
    rcases h c List.mem_cons_self with rfl | rfl | hc
    · cases filler <;> exact calm_cons (by decide)
    · exact calm_cons (by decide)
    · have hlit : ∀ x ∈ specials, c ≠ x := fun x hx he => hc (he ▸ hx)
      rw [charText_literal hc, List.singleton_append, tokensFrom_cons (hlit _ (by decide))]
      exact calm_cons ⟨by simpa using hlit '\\' (by decide), by simpa using hlit '?' (by decide),
        by simpa using hlit '+' (by decide)⟩

/-- A repeated filler makes two tokens. -/
theorem exists_tokensFrom_filler (filler : Filler) (p : Nat) (cs : List Char) :
    ∃ q q', tokensFrom p (filler.text ++ ['*'] ++ cs) =
      ⟨p, filler.text⟩ :: ⟨q, ['*']⟩ :: tokensFrom q' cs := by
  cases filler with
  | anything => exact ⟨p + 1, p + 2, rfl⟩
  | dots => exact ⟨p + 2, p + 3, rfl⟩

/-- The reader goes through the text of a glob item by item. A star is two steps: what is repeated,
and the repetition. -/
theorem run_sequence_expressionText (filler : Filler) {first : Bool} :
    ∀ {g : List Char}, IsWritable g → ∀ {n p : Nat} {got : List Regex} {s : Reader},
      s.rest = tokensFrom p (expressionText filler g) → 2 * g.length < n →
      (sequence false first got n).run s =
        .ok (unpack (got.reverse ++ g.map (charItem filler)), { s with rest := [] })
  | [], _, n + 1, p, got, s, hs, _ => by
    have hrest : s.rest = [] := hs
    rw [sequence, run_bind_of_ok (run_sign_nil false hrest), List.map_nil, List.append_nil, ← hrest]
    rfl
  | c :: g, h, n, p, got, s, hs, hn => by
    obtain ⟨m, rfl⟩ : ∃ m, n = m + 2 := ⟨n - 2, by simp at hn; omega⟩
    have hm : 2 * g.length < m := by simp at hn; omega
    have hcalm := fun q => calm_expressionText filler q h.tail
    rw [expressionText, List.flatMap_cons] at hs
    rcases h c List.mem_cons_self with rfl | rfl | hc
    · obtain ⟨q, q', htokens⟩ := exists_tokensFrom_filler filler p (expressionText filler g)
      rw [run_sequence_filler filler (hs.trans htokens) (calm_cons (by decide)),
        run_sequence_star filler rfl (hcalm q'),
        run_sequence_expressionText filler h.tail rfl hm]
      simp [charItem]
    · have htokens : s.rest = ⟨p, ['\\', '.']⟩ :: tokensFrom (p + 2) (expressionText filler g) := hs
      rw [run_sequence_quoted htokens (hcalm _),
        run_sequence_expressionText filler h.tail rfl (by omega)]
      simp [charItem]
    · have hstar : c ≠ '*' := fun he => hc (by simp [he, specials])
      have hslash : c ≠ '\\' := fun he => hc (by simp [he, specials])
      rw [charText_literal hc, List.singleton_append, tokensFrom_cons hslash] at hs
      rw [run_sequence_literal hc hs (hcalm _),
        run_sequence_expressionText filler h.tail rfl (by omega)]
      simp [charItem_of_ne filler hstar]

/-- None of the items is a sequence that would be unpacked. -/
theorem unpack_charItems (filler : Filler) (g : List Char) :
    unpack (g.map (charItem filler)) = g.map (charItem filler) := by
  induction g with
  | nil => rfl
  | cons c g ih =>
    rw [List.map_cons]
    by_cases hc : c = '*'
    · simp [charItem, hc, unpack, ih]
    · simp [charItem, hc, unpack, ih]

/-- None of the items is out of place. -/
theorem misfitIn_charItems (filler : Filler) (g : List Char) :
    misfitIn false (g.map (charItem filler)) = none := by
  induction g with
  | nil => rfl
  | cons c g ih =>
    rw [List.map_cons, misfitIn, ih]
    by_cases hc : c = '*'
    · cases filler <;> simp [charItem, hc, misfit?, Filler.item]
    · simp [charItem, hc, misfit?]

/-- The text of a glob is at least as long as the glob. -/
theorem length_le_expressionText (filler : Filler) (g : List Char) :
    g.length ≤ (expressionText filler g).length := by
  induction g with
  | nil => exact Nat.zero_le _
  | cons c g ih =>
    have hc : 1 ≤ (charText filler c).length := by
      unfold charText
      split_ifs <;> simp
    rw [expressionText, List.flatMap_cons, List.length_append, List.length_cons]
    rw [expressionText] at ih
    omega

/-- The whole expression is read as the items of its characters. -/
theorem run_alternatives_expressionText (filler : Filler) {g : List Char} (h : IsWritable g)
    {n p : Nat} {s : Reader} (hs : s.rest = tokensFrom p (expressionText filler g))
    (hn : 2 * g.length < n) :
    (alternatives false true [] (n + 1)).run s =
      .ok (.seq (g.map (charItem filler)), { s with rest := [] }) := by
  rw [alternatives, run_bind_of_ok (run_sequence_expressionText filler h hs hn), List.reverse_nil,
    List.nil_append, unpack_charItems]
  refine (run_bind_of_ok (run_accept '|' ?_)).trans ?_
  · simp
  · rw [if_neg Bool.false_ne_true]
    rfl

/-- An expression that the alternatives read to the end of the text is the whole one. -/
theorem run_whole {s : Reader} {r : Regex} (hcheck : Calm s.rest)
    (halt : (alternatives false true [] (4 * s.size + 4)).run s = .ok (r, { s with rest := [] }))
    (hflags : s.flags = Flags.none) (hrefs : s.references = []) (hr : misfit? false r = none) :
    whole.run s = .ok (r, { s with rest := [] }) := by
  have hget : ∀ t : Reader, (get : Read Reader).run t = .ok (t, t) := fun _ => rfl
  rw [whole, run_bind_of_ok (run_checkNext hcheck), run_bind_of_ok (hget s), run_bind_of_ok halt,
    run_bind_of_ok (hget _)]
  simp only [hflags, hrefs]
  refine (run_bind_of_ok (run_peek _)).trans ?_
  rw [show misfit? Flags.none.template r = none from hr]
  rfl

/-- The text that is written for a glob is read as the sequence of its items. -/
theorem parse_expressionText (filler : Filler) {g : List Char} (h : IsWritable g) :
    parse (String.ofList (expressionText filler g)) =
      .ok (.seq (g.map (charItem filler)), Flags.none) := by
  have hlength := length_le_expressionText filler g
  have hmisfit : misfit? false (.seq (g.map (charItem filler))) = none := by
    rw [misfit?, misfitIn_charItems]
  have hwhole : ∀ s : Reader, s.rest = tokensFrom 0 (expressionText filler g) →
      s.size = (expressionText filler g).length → s.flags = Flags.none → s.references = [] →
      whole.run s = .ok (.seq (g.map (charItem filler)), { s with rest := [] }) := by
    intro s hrest hsize hflags hrefs
    have hcalm : Calm s.rest := hrest ▸ calm_expressionText filler 0 h
    have hfuel : 2 * g.length < 4 * s.size + 3 := by omega
    exact run_whole hcalm (run_alternatives_expressionText filler h hrest hfuel) hflags hrefs hmisfit
  have hlist : (String.ofList (expressionText filler g)).toList = expressionText filler g :=
    String.toList_ofList
  rw [parse, hwhole _ (by rw [hlist]) (by rw [hlist]) rfl rfl]

/-! ## Matching -/

/-- Whether there is a way on depends on the rest of the text alone. -/
def Next.Asks (next : Next) (p : List Char → Prop) : Prop :=
  ∀ s, (next s).isSome = true ↔ p s.rest

/-- The expression takes one character, any of those given. -/
structure TakesOne (body : Spot → Next → Option Spot) (takes : Char → Bool) : Prop where
  nil {s : Spot} (next : Next) (h : s.rest = []) : body s next = none
  cons {s : Spot} {c : Char} {cs : List Char} (next : Next) (h : s.rest = c :: cs) :
    body s next = if takes c then next (s.step c cs) else none

/-- A character takes one character, itself. -/
theorem takesOne_code (a : Char) : TakesOne (through Flags.none (.code a.toNat)) (· == a) := by
  have hsame : ∀ c, sameCode Flags.none a.toNat c = (c == a) := by
    intro c
    rw [Bool.eq_iff_iff, beq_iff_eq, eq_comm (a := c), ← Char.toNat_inj]
    exact beq_iff_eq
  constructor
  · intro s next h
    simp only [through, h]
  · intro s c cs next h
    simp only [through, h, hsame]

/-- A filler takes one character. -/
theorem takesOne_filler (filler : Filler) :
    TakesOne (through Flags.none filler.item) filler.takes := by
  cases filler with
  | anything =>
    constructor
    · intro s next h
      simp only [Filler.item, through, h]
    · intro s c cs next h
      simp [Filler.item, through, h, Filler.takes, Flags.none]
  | dots => exact takesOne_code '.'

/-- A greedy repetition finds a way on exactly if there is one after some run. -/
theorem isSome_rounds_iff {body : Spot → Next → Option Spot} {takes : Char → Bool}
    (hbody : TakesOne body takes) {next : Next} {p : List Char → Prop} (hnext : next.Asks p)
    {fuel : Nat} {s : Spot} (hfuel : s.rest.length < fuel) :
    (rounds body false next fuel 0 none s).isSome = true ↔
      ∃ as bs, s.rest = as ++ bs ∧ (∀ c ∈ as, takes c = true) ∧ p bs := by
  induction fuel generalizing s with
  | zero => exact absurd hfuel (Nat.not_lt_zero _)
  | succ fuel ih =>
    have hstop : (next s).isSome = true ↔ p s.rest := hnext s
    rw [rounds]
    simp only [beq_iff_eq, reduceCtorEq, if_false, Option.map_none, Bool.false_eq_true]
    rw [Option.orElse_eq_or, Option.isSome_or, Bool.or_eq_true, hstop, or_comm]
    cases hs : s.rest with
    | nil => rw [hbody.nil _ hs, Glob.exists_run_nil_iff]; simp
    | cons c cs =>
      have hlength : (s.step c cs).rest.length ≠ s.rest.length := by simp [hs, Spot.step]
      have hlt : (s.step c cs).rest.length < fuel := by simpa [hs, Spot.step] using hfuel
      rw [hs] at hlength
      rw [hbody.cons _ hs, if_neg hlength, Glob.exists_run_cons_iff]
      by_cases hc : takes c = true
      · rw [if_pos hc, ih hlt]
        simp [hc, Spot.step]
      · simp [hc]

/-- An expression for one character goes on after a character that it takes. -/
theorem TakesOne.isSome_iff {body : Spot → Next → Option Spot} {takes : Char → Bool}
    (hbody : TakesOne body takes) {next : Next} {p : List Char → Prop} (hnext : next.Asks p)
    (s : Spot) :
    (body s next).isSome = true ↔ ∃ c cs, s.rest = c :: cs ∧ takes c = true ∧ p cs := by
  cases hs : s.rest with
  | nil => simp [hbody.nil _ hs]
  | cons c cs =>
    rw [hbody.cons _ hs]
    by_cases hc : takes c = true
    · rw [if_pos hc, hnext]
      simp [hc, Spot.step]
    · simp [hc]

/-- The items of a glob find a way on exactly if there is one after a text that fits the glob. -/
theorem isSome_throughAll_iff (filler : Filler) (g : List Char) {next : Next}
    {p : List Char → Prop} (hnext : next.Asks p) (s : Spot) :
    (throughAll Flags.none (g.map (charItem filler)) s next).isSome = true ↔
      ∃ as bs, s.rest = as ++ bs ∧ Glob.Fits filler.takes (g.map Glob.itemOf) as ∧ p bs := by
  induction g generalizing s with
  | nil => simp [throughAll, Glob.fits_nil_iff, hnext s]
  | cons c g ih =>
    have hrest : Next.Asks (throughAll Flags.none (g.map (charItem filler)) · next) fun cs =>
        ∃ as bs, cs = as ++ bs ∧ Glob.Fits filler.takes (g.map Glob.itemOf) as ∧ p bs := ih
    have hlimit : s.rest.length < roundLimit s 0 := by rw [roundLimit]; omega
    rw [List.map_cons, List.map_cons, throughAll]
    by_cases hc : c = '*'
    · subst hc
      rw [charItem, if_pos rfl, through]
      · refine (isSome_rounds_iff (takesOne_filler filler) hrest hlimit).trans ?_
        simp only [Glob.itemOf_star, Glob.fits_star_iff]
        constructor
        · rintro ⟨as, _, hs, ha, bs, rest, rfl, hb, hp⟩
          exact ⟨as ++ bs, rest, by simp [hs], ⟨as, bs, rfl, ha, hb⟩, hp⟩
        · rintro ⟨_, rest, hs, ⟨as, bs, rfl, ha, hb⟩, hp⟩
          exact ⟨as, bs ++ rest, by simp [hs], ha, bs, rest, rfl, hb, hp⟩
      · simp
    · rw [charItem_of_ne filler hc, (takesOne_code c).isSome_iff hrest, Glob.itemOf_of_ne hc]
      simp only [Glob.fits_item_iff (i := .char c) (by simp), Glob.Item.admits, beq_iff_eq]
      constructor
      · rintro ⟨a, _, hs, ha, bs, rest, rfl, hb, hp⟩
        exact ⟨a :: bs, rest, by simp [hs], ⟨a, bs, rfl, ha.symm, hb⟩, hp⟩
      · rintro ⟨_, rest, hs, ⟨a, bs, rfl, ha, hb⟩, hp⟩
        exact ⟨a, bs ++ rest, by simp [hs], ha.symm, bs, rest, rfl, hb, hp⟩

/-- The expression for a glob matches at the start of a text exactly if a start of the text fits the
glob. -/
theorem matchesStart_iff_fits (filler : Filler) (g : List Char) (text : String) :
    matchesStart (.seq (g.map (charItem filler)), Flags.none) text = true ↔
      ∃ start, start <+: text.toList ∧ Glob.Fits filler.takes (g.map Glob.itemOf) start := by
  have hsome : Next.Asks some fun _ => True := fun s => by simp
  rw [matchesStart, through, isSome_throughAll_iff filler g hsome]
  constructor
  · rintro ⟨as, bs, hs, ha, -⟩
    exact ⟨as, ⟨bs, hs.symm⟩, ha⟩
  · rintro ⟨as, ⟨bs, hs⟩, ha⟩
    exact ⟨as, bs, hs.symm, ha, trivial⟩

/-- Such an expression always gives an answer. -/
theorem test_expressionText (filler : Filler) {g : List Char} (h : IsWritable g) (text : String) :
    ∃ b, test (String.ofList (expressionText filler g)) text = .ok b ∧
      (b = true ↔
        ∃ start, start <+: text.toList ∧ Glob.Fits filler.takes (g.map Glob.itemOf) start) := by
  refine ⟨_, ?_, matchesStart_iff_fits filler g text⟩
  rw [test, parse_expressionText filler h]
  rfl

end Codebook.Regex
