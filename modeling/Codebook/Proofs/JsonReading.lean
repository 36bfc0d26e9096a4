import Mathlib
import Codebook.Document.Json
import Codebook.Source.Escape
import Codebook.Proofs.TextParts

/-!
# Reading JSON back

`Json.decode` reads a JSON text by the usual grammar: white space between parts, strict strings with
escapes, where two escapes of code units can make one character, numbers with and without a
fraction, and objects in which the last of several fields with one name counts.

A text that was written is read as it was meant, whatever follows it: each kind of part has a lemma
of the shape `read (written ++ rest) = some (value, rest)`. A number is the only part that does not
say where it ends, so what follows it must not go on with it (`EndsNumber`).

A text whose characters are all meant is read back whatever it holds. Where a text can hold half of a
character, the half is written as one escape and read back. Only two halves side by side that make a
character are read as that character; a text without such a pair is `Whole`.

* `units_flatMap_jsonChar`, `ofUnits_flatMap`: strings, first unit by unit, then as characters.
* `number_toString`: integers.
* `bracket_intercalate`: lists and objects, for any way to read one part.
-/

namespace Codebook.Json

open Text Document

/-! ## The decoder -/

/-- The white space that may stand between parts. -/
def isSpace (c : Char) : Bool :=
  c == ' ' || c == '\t' || c == '\n' || c == '\r'

def skip (cs : List Char) : List Char :=
  cs.dropWhile isSpace

/-- The characters that single letters stand for after a backslash, and those that stand for
themselves. -/
def escape? : Char → Option Char
  | '"' => some '"'
  | '\\' => some '\\'
  | '/' => some '/'
  | 'b' => some '\x08'
  | 'f' => some '\x0c'
  | 'n' => some '\n'
  | 'r' => some '\r'
  | 't' => some '\t'
  | _ => none

/-- The codes in a string up to its closing quote, and what follows. Control characters have to be
escaped. -/
def units : List Char → Option (List Nat × List Char)
  | [] => none
  | '"' :: cs => some ([], cs)
  | '\\' :: 'u' :: a :: b :: c :: d :: cs =>
    (Source.hexCode? 4 [a, b, c, d]).bind fun n => (units cs).map fun r => (n :: r.1, r.2)
  | '\\' :: e :: cs =>
    (escape? e).bind fun c => (units cs).map fun r => (c.toNat :: r.1, r.2)
  | c :: cs =>
    if c == '\\' || c.toNat < 32 then none else (units cs).map fun r => (c.toNat :: r.1, r.2)

/-- The first of the two units of a character beyond the first plane. -/
def isHigh (n : Nat) : Bool :=
  0xd800 ≤ n && n < 0xdc00

/-- The second of them. -/
def isLow (n : Nat) : Bool :=
  0xdc00 ≤ n && n < 0xe000

/-- The characters of a string. Two units that make one character are joined; half of a character
can also stand alone. -/
def ofUnits : List Nat → List Char
  | [] => []
  | [n] => [ofCode n]
  | h :: l :: ns =>
    if isHigh h && isLow l then
      Char.ofNat (0x10000 + (h - 0xd800) * 1024 + (l - 0xdc00)) :: ofUnits ns
    else ofCode h :: ofUnits (l :: ns)

/-- A string after its opening quote. -/
def string (cs : List Char) : Option (String × List Char) :=
  (units cs).map fun r => (String.ofList (ofUnits r.1), r.2)

/-- At least one digit. -/
def digits (cs : List Char) : Option (List Char × List Char) :=
  let ds := cs.takeWhile Char.isDigit
  if ds.isEmpty then none else some (ds, cs.dropWhile Char.isDigit)

/-- The digits after a decimal point, if there is one. -/
def fraction : List Char → Option (List Char × List Char)
  | '.' :: cs => digits cs
  | cs => some ([], cs)

/-- The power of ten after a number, if there is one. -/
def exponent (cs : List Char) : Option (Option Int × List Char) :=
  if cs.head? == some 'e' || cs.head? == some 'E' then
    let sign := cs.tail.head?
    let unsigned := if sign == some '-' || sign == some '+' then cs.tail.tail else cs.tail
    (digits unsigned).map fun r =>
      let n : Int := Nat.ofDigitChars 10 r.1 0
      (some (if sign == some '-' then -n else n), r.2)
  else some (none, cs)

/-- A number without its sign. It is an integer unless a fraction or an exponent follows, and has no
zero before other digits. -/
def unsigned (negative : Bool) (cs : List Char) : Option (Datum × List Char) := do
  let (whole, cs) ← digits cs
  let (part, cs) ← fraction cs
  let (power, cs) ← exponent cs
  if whole.head? == some '0' && 1 < whole.length then none
  else if part.isEmpty && power.isNone then
    let n : Int := Nat.ofDigitChars 10 whole 0
    return (.int (if negative then -n else n), cs)
  else
    let x := Decimal.ofScientific (Nat.ofDigitChars 10 (whole ++ part) 0)
      (power.getD 0 - part.length)
    return (.float (if negative then -x else x), cs)

def number : List Char → Option (Datum × List Char)
  | '-' :: cs => unsigned true cs
  | cs => unsigned false cs

section Parts

variable {α : Type} (part : List Char → Option (α × List Char)) (close : Char)

/-- Parts with commas between them, up to the closing bracket. -/
def parts : (fuel : Nat) → List Char → Option (List α × List Char)
  | 0, _ => none
  | fuel + 1, cs =>
    (part cs).bind fun r =>
      match skip r.2 with
      | c :: cs =>
        if c == close then some ([r.1], cs)
        else if c == ',' then (parts fuel cs).map fun r' => (r.1 :: r'.1, r'.2)
        else none
      | [] => none

/-- What stands in brackets: nothing, or parts. There are no more parts than characters. -/
def bracket (cs : List Char) : Option (List α × List Char) :=
  match skip cs with
  | c :: rest => if c == close then some ([], rest) else parts part close cs.length cs
  | [] => none

end Parts

/-- A field of an object, for a way to read its value. -/
def field (value : List Char → Option (Datum × List Char)) (cs : List Char) :
    Option ((String × Datum) × List Char) :=
  match skip cs with
  | '"' :: cs =>
    (string cs).bind fun r =>
      match skip r.2 with
      | ':' :: cs => (value cs).map fun r' => ((r.1, r'.1), r'.2)
      | _ => none
  | _ => none

/-- A value that is nested at most `fuel` deep. -/
def value : (fuel : Nat) → List Char → Option (Datum × List Char)
  | 0, _ => none
  | fuel + 1, cs =>
    match skip cs with
    | '"' :: cs => (string cs).map fun r => (.text r.1, r.2)
    | '[' :: cs => (bracket (value fuel) ']' cs).map fun r => (.list r.1, r.2)
    | '\x7b' :: cs =>
      (bracket (field (value fuel)) '\x7d' cs).map fun r => (.object (ofNamed r.1), r.2)
    | 'n' :: 'u' :: 'l' :: 'l' :: cs => some (.null, cs)
    | 't' :: 'r' :: 'u' :: 'e' :: cs => some (.bool true, cs)
    | 'f' :: 'a' :: 'l' :: 's' :: 'e' :: cs => some (.bool false, cs)
    | cs => number cs

/-- The value that a whole text stands for. -/
def decode (s : String) : Option Datum :=
  (value s.toList.length s.toList).bind fun r => if (skip r.2).isEmpty then some r.1 else none

/-! ## Strings -/

/-- A hexadecimal digit has its value. -/
theorem digitOf_hexDigit {n : Nat} (h : n < 16) :
    Source.digitOf (hexDigit n) = n ∧ Source.isDigitOf 16 (hexDigit n) = true := by
  interval_cases n <;> decide

/-- A hexadecimal number has the given width. -/
theorem length_hex (w n : Nat) : (hex w n).length = w := by
  induction w generalizing n with
  | zero => rfl
  | succ w ih => simp [hex, ih]

/-- It consists of hexadecimal digits. -/
theorem all_hex (w n : Nat) : (hex w n).all (Source.isDigitOf 16) = true := by
  induction w generalizing n with
  | zero => rfl
  | succ w ih => simp [hex, ih, (digitOf_hexDigit (Nat.mod_lt n (by decide : 16 > 0))).2]

/-- It is read back up to its width. -/
theorem valueOf_hex (w n : Nat) : Source.valueOf 16 (hex w n) = n % 16 ^ w := by
  induction w generalizing n with
  | zero => simp [hex, Source.valueOf, Nat.mod_one]
  | succ w ih =>
    have hlast := (digitOf_hexDigit (Nat.mod_lt n (by decide : 16 > 0))).1
    have hstep : Source.valueOf 16 (hex (w + 1) n) =
        Source.valueOf 16 (hex w (n / 16)) * 16 + n % 16 := by
      simp [hex, Source.valueOf, hlast]
    rw [hstep, ih, Nat.pow_succ', Nat.mod_mul]
    ring

/-- Hexadecimal digits are read as the number that they were written for. -/
theorem hexCode?_hex {w n : Nat} (h : n < 16 ^ w) : Source.hexCode? w (hex w n) = some n := by
  have htake : (hex w n).take w = hex w n := by
    rw [List.take_of_length_le (length_hex w n).le]
  simp only [Source.hexCode?, htake, length_hex, all_hex, valueOf_hex, Nat.mod_eq_of_lt h]
  simp

/-- The escape of a code unit is read as that unit. -/
theorem units_unitEscape {n : Nat} (h : n < 0x10000) (cs : List Char) :
    units (unitEscape n ++ cs) = (units cs).map fun r => (n :: r.1, r.2) := by
  obtain ⟨a, b, c, d, hhex⟩ : ∃ a b c d, hex 4 n = [a, b, c, d] := ⟨_, _, _, _, rfl⟩
  have hcode := hexCode?_hex (w := 4) h
  rw [hhex] at hcode
  rw [unitEscape, hhex]
  simp only [List.cons_append, List.nil_append, units, hcode, Option.bind_some]

/-- The code units by which a character is written. -/
def unitsOf (rd : Reading) (c : Char) : List Nat :=
  match rd.half? c with
  | some h => [h]
  | none =>
    if c.toNat < 0x10000 then [c.toNat]
    else [0xd800 + (c.toNat - 0x10000) / 1024, 0xdc00 + (c.toNat - 0x10000) % 1024]

/-- A half is one of the surrogates, in its place. -/
theorem half?_eq_some {rd : Reading} {c : Char} {h : Nat} (hc : rd.half? c = some h) :
    0xd800 ≤ h ∧ h < 0xe000 ∧ c.toNat = halfBase + (h - 0xd800) := by
  cases rd with
  | whole => cases hc
  | halves =>
    simp only [Reading.half?, half?] at hc
    split_ifs at hc with hrange
    simp only [Bool.and_eq_true, decide_eq_true_eq] at hrange
    obtain rfl := Option.some.inj hc
    omega

/-- The codes of characters leave out those of halves. -/
theorem toNat_cases (c : Char) : c.toNat < 0xd800 ∨ 0xe000 ≤ c.toNat ∧ c.toNat < 0x110000 := by
  rcases c.valid with h | ⟨h, h'⟩
  · exact .inl h
  · exact .inr ⟨h, h'⟩

/-- A character that stands for itself. -/
theorem units_cons {c : Char} (hquote : c ≠ '"') (hslash : c ≠ '\\') (hc : 32 ≤ c.toNat)
    (cs : List Char) : units (c :: cs) = (units cs).map fun r => (c.toNat :: r.1, r.2) := by
  rw [units]
  · simp [hslash, Nat.not_lt.mpr hc]
  all_goals simp [hquote, hslash]

/-- A half is one unit. -/
theorem unitsOf_of_half {rd : Reading} {c : Char} {h : Nat} (hc : rd.half? c = some h) :
    unitsOf rd c = [h] := by
  rw [unitsOf, hc]

/-- A character below U+10000 is one unit. -/
theorem unitsOf_of_lt {rd : Reading} {c : Char} (hhalf : rd.half? c = none)
    (hc : c.toNat < 0x10000) : unitsOf rd c = [c.toNat] := by
  rw [unitsOf, hhalf]
  exact if_pos hc

/-- Every other character is two units. -/
theorem unitsOf_of_le {rd : Reading} {c : Char} (hhalf : rd.half? c = none)
    (hc : 0x10000 ≤ c.toNat) :
    unitsOf rd c = [0xd800 + (c.toNat - 0x10000) / 1024, 0xdc00 + (c.toNat - 0x10000) % 1024] := by
  rw [unitsOf, hhalf]
  exact if_neg (Nat.not_lt.mpr hc)

/-- A written character is read as the code units that it was written by. -/
theorem units_jsonChar (rd : Reading) (c : Char) (cs : List Char) :
    units (jsonChar rd c ++ cs) = (units cs).map fun r => (unitsOf rd c ++ r.1, r.2) := by
  unfold jsonChar
  split
  case h_8 hquote hslash _ _ _ _ _ =>
    by_cases hprintable : 32 ≤ c.toNat ∧ c.toNat ≤ 126
    · have hhalf : rd.half? c = none := by
        rw [Option.eq_none_iff_forall_ne_some]
        intro h hc
        have hcode := (half?_eq_some hc).2.2
        rw [halfBase] at hcode
        omega
      simp only [hprintable, decide_true, Bool.and_self, if_true, List.singleton_append,
        units_cons hquote hslash hprintable.1, unitsOf_of_lt hhalf (by omega)]
    · have hcond : (decide (32 ≤ c.toNat) && decide (c.toNat ≤ 126)) = false := by
        simpa using hprintable
      simp only [hcond, Bool.false_eq_true, if_false]
      cases hhalf : rd.half? c with
      | some h =>
        obtain ⟨-, hlt, -⟩ := half?_eq_some hhalf
        simp only [units_unitEscape (lt_trans hlt (by decide)), unitsOf_of_half hhalf,
          List.singleton_append]
      | none =>
        by_cases hplane : c.toNat < 0x10000
        · simp only [hplane, if_true, units_unitEscape hplane, unitsOf_of_lt hhalf hplane,
            List.singleton_append]
        · have hmax : c.toNat < 0x110000 := by
            rcases toNat_cases c with h | h <;> omega
          simp only [hplane, if_false, List.append_assoc]
          rw [units_unitEscape (by omega), units_unitEscape (by omega),
            unitsOf_of_le hhalf (Nat.not_lt.mp hplane)]
          simp [Function.comp_def]
  -- the characters with an escape of their own
  all_goals cases rd <;> simp [units, escape?, unitsOf, Reading.half?, half?, halfBase]

/-- A written string is read up to its closing quote. -/
theorem units_flatMap_jsonChar (rd : Reading) (cs rest : List Char) :
    units (cs.flatMap (jsonChar rd) ++ '"' :: rest) = some (cs.flatMap (unitsOf rd), rest) := by
  induction cs with
  | nil => simp [units]
  | cons c cs ih =>
    rw [List.flatMap_cons, List.append_assoc, units_jsonChar, ih]
    simp

/-- Two characters that stand for the two halves of one. -/
def Splits (rd : Reading) (a b : Char) : Prop :=
  (rd.half? a).any isHigh = true ∧ (rd.half? b).any isLow = true

instance (rd : Reading) (a b : Char) : Decidable (Splits rd a b) :=
  inferInstanceAs (Decidable (_ ∧ _))

/-- No character of the text is split into two halves. -/
def Whole (rd : Reading) (s : String) : Prop :=
  s.toList.IsChain fun a b => ¬ Splits rd a b

instance (rd : Reading) (s : String) : Decidable (Whole rd s) :=
  inferInstanceAs (Decidable (List.IsChain _ _))

/-- Where all characters are meant, none is split. -/
theorem whole_of_whole (s : String) : Whole .whole s := by
  have hsplits : ∀ a b, ¬ Splits .whole a b := fun a b h => by cases h.1
  exact (List.pairwise_of_forall hsplits).isChain

/-- A character is read back from its code. -/
theorem ofCode_toNat (c : Char) : ofCode c.toNat = c := by
  have hnot : ¬ (0xd800 ≤ c.toNat ∧ c.toNat < 0xe000) := by
    rcases toNat_cases c with h | h <;> omega
  simp [ofCode, hnot, Char.ofNat_toNat]

/-- A half is read back from its code. -/
theorem ofCode_of_half {rd : Reading} {c : Char} {h : Nat} (hc : rd.half? c = some h) :
    ofCode h = c := by
  obtain ⟨hle, hlt, hcode⟩ := half?_eq_some hc
  rw [ofCode, if_pos (by simp [hle, hlt]), ← hcode, Char.ofNat_toNat]

/-- A character is written by one unit, which is a half only if the character stands for it, or by
two halves that make it. -/
theorem unitsOf_cases (rd : Reading) (c : Char) :
    (∃ n, unitsOf rd c = [n] ∧ ofCode n = c ∧ (isHigh n = true → (rd.half? c).any isHigh = true) ∧
      (isLow n = true → (rd.half? c).any isLow = true)) ∨
    ∃ h l, unitsOf rd c = [h, l] ∧ isHigh h = true ∧ isLow l = true ∧
      Char.ofNat (0x10000 + (h - 0xd800) * 1024 + (l - 0xdc00)) = c := by
  have hcode := toNat_cases c
  cases hhalf : rd.half? c with
  | some h => exact .inl ⟨h, unitsOf_of_half hhalf, ofCode_of_half hhalf, by simp, by simp⟩
  | none =>
    rcases Nat.lt_or_ge c.toNat 0x10000 with hplane | hplane
    · refine .inl ⟨c.toNat, unitsOf_of_lt hhalf hplane, ofCode_toNat c, ?_, ?_⟩
      · intro hhigh
        simp only [isHigh, Bool.and_eq_true, decide_eq_true_eq] at hhigh
        omega
      · intro hlow
        simp only [isLow, Bool.and_eq_true, decide_eq_true_eq] at hlow
        omega
    · refine .inr ⟨_, _, unitsOf_of_le hhalf hplane, ?_, ?_, ?_⟩
      · simp only [isHigh, Bool.and_eq_true, decide_eq_true_eq]
        omega
      · simp only [isLow, Bool.and_eq_true, decide_eq_true_eq]
        omega
      · have hsum : 0x10000 + (0xd800 + (c.toNat - 0x10000) / 1024 - 0xd800) * 1024 +
            (0xdc00 + (c.toNat - 0x10000) % 1024 - 0xdc00) = c.toNat := by
          omega
        rw [hsum, Char.ofNat_toNat]

/-- A unit that does not go together with the next one stands for a character of its own. -/
theorem ofUnits_cons {n : Nat} {ns : List Nat}
    (h : ∀ l ∈ ns.head?, ¬ (isHigh n = true ∧ isLow l = true)) :
    ofUnits (n :: ns) = ofCode n :: ofUnits ns := by
  cases ns with
  | nil => rfl
  | cons l ns =>
    have hcond : ¬ (isHigh n && isLow l) = true := by
      simpa using h l rfl
    rw [ofUnits, if_neg hcond]

/-- The units by which a text was written stand for its characters, if none is split. -/
theorem ofUnits_flatMap {rd : Reading} {cs : List Char}
    (h : cs.IsChain fun a b => ¬ Splits rd a b) : ofUnits (cs.flatMap (unitsOf rd)) = cs := by
  induction cs with
  | nil => rfl
  | cons c cs ih =>
    have hcs := ih h.tail
    rw [List.flatMap_cons]
    rcases unitsOf_cases rd c with ⟨n, hunits, hchar, hhigh, -⟩ | ⟨h, l, hunits, hh, hl, hchar⟩
    · -- a low half can only come from a character that stands for it
      have hnext : ∀ l ∈ (cs.flatMap (unitsOf rd)).head?, ¬ (isHigh n = true ∧ isLow l = true) := by
        rintro l hl ⟨hn, hlow⟩
        rcases cs with _ | ⟨b, cs⟩
        · simp at hl
        · have hsplit := (List.isChain_cons_cons.mp h).1
          rcases unitsOf_cases rd b with ⟨m, hm, -, -, hmlow⟩ | ⟨m, k, hm, hmhigh, -⟩
          · obtain rfl : m = l := by simpa [hm] using hl
            exact hsplit ⟨hhigh hn, hmlow hlow⟩
          · obtain rfl : m = l := by simpa [hm] using hl
            simp only [isHigh, isLow, Bool.and_eq_true, decide_eq_true_eq] at hmhigh hlow
            omega
      rw [hunits, List.singleton_append, ofUnits_cons hnext, hchar, hcs]
    · simp only [hunits, List.cons_append, List.nil_append, ofUnits, hh, hl, Bool.and_self,
        if_true, hchar, hcs]

/-- A written string is read back. -/
theorem string_jsonString {rd : Reading} {s : String} (h : Whole rd s) (rest : List Char) :
    string (s.toList.flatMap (jsonChar rd) ++ '"' :: rest) = some (s, rest) := by
  rw [string, units_flatMap_jsonChar, Option.map_some, ofUnits_flatMap h, String.ofList_toList]

/-! ## Numbers -/

/-- The text does not go on with a number. -/
def EndsNumber (cs : List Char) : Prop :=
  ∀ c ∈ cs.head?, c.isDigit = false ∧ c ≠ '.' ∧ c ≠ 'e' ∧ c ≠ 'E'

/-- Only zero is written with a zero in front. -/
theorem head?_toDigits (n : Nat) (h : (Nat.toDigits 10 n).head? = some '0') : n < 10 := by
  induction n using Nat.strong_induction_on with
  | _ n ih =>
    by_contra hn
    rw [Nat.toDigits_of_base_le (by decide) (Nat.not_lt.mp hn),
      List.head?_append_of_ne_nil _ Nat.toDigits_ne_nil] at h
    have hlt := ih (n / 10) (by omega) h
    rw [Nat.toDigits_of_lt_base hlt] at h
    have hpos : n / 10 ≠ 0 := by omega
    interval_cases hq : n / 10 <;> simp_all [Nat.digitChar]

/-- Digits are read up to the end of the number. -/
theorem digits_toDigits (n : Nat) {rest : List Char} (hrest : EndsNumber rest) :
    digits (Nat.toDigits 10 n ++ rest) = some (Nat.toDigits 10 n, rest) := by
  have hall : ∀ c ∈ Nat.toDigits 10 n, c.isDigit = true := fun c hc =>
    Nat.isDigit_of_mem_toDigits (by decide) (by decide) hc
  have hstop : ∀ c ∈ rest.head?, c.isDigit = false := fun c hc => (hrest c hc).1
  rw [digits, takeWhile_append_eq hall hstop, dropWhile_append_eq hall hstop]
  simp [Nat.toDigits_ne_nil]

/-- A number without fraction and exponent is an integer. -/
theorem unsigned_toDigits (negative : Bool) (n : Nat) {rest : List Char} (hrest : EndsNumber rest) :
    unsigned negative (Nat.toDigits 10 n ++ rest) =
      some (.int (if negative then -(n : Int) else n), rest) := by
  have hfraction : fraction rest = some ([], rest) := by
    unfold fraction
    split
    · exact absurd rfl (hrest '.' rfl).2.1
    · rfl
  have hexponent : exponent rest = some (none, rest) := by
    rw [exponent, if_neg]
    simp only [Bool.or_eq_true, beq_iff_eq, not_or]
    exact ⟨fun h => (hrest 'e' h).2.2.1 rfl, fun h => (hrest 'E' h).2.2.2 rfl⟩
  have hzero :
      ((Nat.toDigits 10 n).head? == some '0' && 1 < (Nat.toDigits 10 n).length) = false := by
    rw [Bool.and_eq_false_imp]
    intro hhead
    have hlt := head?_toDigits n (by simpa using hhead)
    simp [Nat.toDigits_of_lt_base hlt]
  simp only [unsigned, digits_toDigits n hrest, hfraction, hexponent, hzero, Option.bind_eq_bind,
    Option.bind_some, Nat.ofDigitChars_ten_toDigits]
  simp

/-- The digits of an integer, after its sign. -/
theorem toList_toString (n : Int) :
    (toString n).toList =
      if n < 0 then '-' :: Nat.toDigits 10 n.natAbs else Nat.toDigits 10 n.natAbs := by
  cases n with
  | ofNat n =>
    change n.repr.toList = _
    rw [Nat.repr_eq_ofList_toDigits, String.toList_ofList, if_neg (by simp)]
    rfl
  | negSucc n =>
    change ("-" ++ n.succ.repr).toList = _
    rw [Nat.repr_eq_ofList_toDigits, if_pos (Int.negSucc_lt_zero n)]
    simp

/-- A number without a minus is not negative. -/
theorem number_of_ne {c : Char} (h : c ≠ '-') (cs : List Char) :
    number (c :: cs) = unsigned false (c :: cs) := by
  rw [number]
  simpa using h

/-- A written integer is read back if nothing goes on with it. -/
theorem number_toString (n : Int) {rest : List Char} (hrest : EndsNumber rest) :
    number ((toString n).toList ++ rest) = some (.int n, rest) := by
  rw [toList_toString]
  split_ifs with hn
  · rw [List.cons_append, number, unsigned_toDigits true _ hrest]
    simp only [if_true, Int.ofNat_natAbs_of_nonpos hn.le, neg_neg]
  · obtain ⟨c, cs, hcs⟩ :=
      List.exists_cons_of_ne_nil (Nat.toDigits_ne_nil (n := n.natAbs) (b := 10))
    have hdigit : c.isDigit = true :=
      Nat.isDigit_of_mem_toDigits (by decide) (by decide) (hcs ▸ List.mem_cons_self)
    have hsign : c ≠ '-' := by
      rintro rfl
      exact absurd hdigit (by decide)
    have hunsigned := unsigned_toDigits false n.natAbs hrest
    rw [hcs, List.cons_append] at hunsigned ⊢
    rw [number_of_ne hsign, hunsigned]
    simp [Int.natAbs_of_nonneg (not_lt.mp hn)]

/-! ## Brackets -/

/-- Space in front is skipped. -/
theorem skip_append {bs : List Char} (h : ∀ c ∈ bs, isSpace c = true) (cs : List Char) :
    skip (bs ++ cs) = skip cs :=
  List.dropWhile_append_of_pos h

/-- Nothing else is skipped. -/
theorem skip_cons {c : Char} (h : isSpace c = false) (cs : List Char) :
    skip (c :: cs) = c :: cs := by
  simp [skip, h]

section Brackets

variable {ι α : Type} {part : List Char → Option (α × List Char)} {close : Char}

/-- Written parts are read one after the other, up to the bracket. -/
theorem parts_intercalate {text : ι → List Char} {val : ι → α} {gap last rest : List Char}
    (hspace : isSpace close = false) (hcomma : close ≠ ',') (hlast : ∀ c ∈ last, isSpace c = true)
    (hends : EndsNumber (last ++ close :: rest)) {xs : List ι} (hne : xs ≠ []) {n : Nat}
    (hn : xs.length ≤ n)
    (hpart : ∀ x ∈ xs, ∀ rest, EndsNumber rest →
      part (gap ++ (text x ++ rest)) = some (val x, rest)) :
    parts part close n
        (gap ++ ((',' :: gap).intercalate (xs.map text) ++ (last ++ close :: rest))) =
      some (xs.map val, rest) := by
  induction xs generalizing n with
  | nil => exact absurd rfl hne
  | cons x xs ih =>
    obtain ⟨m, rfl⟩ : ∃ m, n = m + 1 := ⟨n - 1, by simp at hn; omega⟩
    have hx := hpart x List.mem_cons_self
    rcases xs with _ | ⟨y, xs⟩
    · -- the bracket follows
      rw [List.map_singleton, List.intercalate_singleton, parts, hx _ hends]
      simp only [Option.bind_some, skip_append hlast, skip_cons hspace]
      simp
    · -- a comma follows
      have hcommaEnds : ∀ cs, EndsNumber (',' :: cs) := by
        intro cs c hc
        obtain rfl : ',' = c := by simpa using hc
        decide
      have hrest := ih (by simp) (by simpa using hn) fun z hz =>
        hpart z (List.mem_cons_of_mem _ hz)
      rw [List.map_cons, List.map_cons, List.intercalate_cons_cons, ← List.map_cons]
      simp only [List.append_assoc, List.cons_append]
      rw [parts, hx _ (hcommaEnds _)]
      simp only [Option.bind_some, skip_cons (show isSpace ',' = false by decide), hrest]
      simp [hcomma.symm]

/-- What is read as parts is read so in brackets, if no part starts with the closing one. -/
theorem bracket_eq {cs : List Char} {r : List α × List Char}
    (hstart : ∀ r', part cs = some r' → ∃ c rest, skip cs = c :: rest ∧ c ≠ close)
    (h : parts part close cs.length cs = some r) : bracket part close cs = some r := by
  have hpart : ∃ r', part cs = some r' := by
    cases hn : cs.length with
    | zero => simp [hn, parts] at h
    | succ n =>
      rw [hn, parts, Option.bind_eq_some_iff] at h
      obtain ⟨r', hr', -⟩ := h
      exact ⟨r', hr'⟩
  obtain ⟨r', hr'⟩ := hpart
  obtain ⟨c, rest, hskip, hc⟩ := hstart r' hr'
  rw [bracket, hskip]
  simpa [hc] using h

/-- There are no more parts than characters, but for one. -/
theorem length_le_intercalate (gap : List Char) (ts : List (List Char)) :
    ts.length ≤ ((',' :: gap).intercalate ts).length + 1 := by
  induction ts with
  | nil => simp
  | cons t ts ih =>
    rcases ts with _ | ⟨t', ts⟩
    · simp
    · rw [List.intercalate_cons_cons]
      simp only [List.length_append, List.length_cons] at ih ⊢
      omega

/-- Written brackets that hold something are read back, if no part starts with the closing one. -/
theorem bracket_intercalate {text : ι → List Char} {val : ι → α} {gap last rest : List Char}
    (hspace : isSpace close = false) (hcomma : close ≠ ',') (hlast : ∀ c ∈ last, isSpace c = true)
    (hends : EndsNumber (last ++ close :: rest)) {xs : List ι} (hne : xs ≠ [])
    (hstart : ∀ cs r, part cs = some r → ∃ c rest, skip cs = c :: rest ∧ c ≠ close)
    (hpart : ∀ x ∈ xs, ∀ rest, EndsNumber rest →
      part (gap ++ (text x ++ rest)) = some (val x, rest)) :
    bracket part close
        (gap ++ ((',' :: gap).intercalate (xs.map text) ++ (last ++ close :: rest))) =
      some (xs.map val, rest) := by
  refine bracket_eq (hstart _) (parts_intercalate hspace hcomma hlast hends hne ?_ hpart)
  have hlength := length_le_intercalate gap (xs.map text)
  simp only [List.length_map, List.length_append, List.length_cons] at hlength ⊢
  omega

end Brackets

/-! ## Values -/

/-- A value may have space in front. -/
theorem value_space {bs : List Char} (h : ∀ c ∈ bs, isSpace c = true) (n : Nat) (cs : List Char) :
    value n (bs ++ cs) = value n cs := by
  cases n with
  | zero => rfl
  | succ n => rw [value, value, skip_append h]

/-- No value starts with the bracket that closes a list. -/
theorem value_start {n : Nat} {cs : List Char} {r : Datum × List Char} (h : value n cs = some r) :
    ∃ c rest, skip cs = c :: rest ∧ c ≠ ']' := by
  cases n with
  | zero => simp [value] at h
  | succ n =>
    rcases hs : skip cs with _ | ⟨c, rest⟩
    · rw [value, hs] at h
      simp [number, unsigned, digits] at h
    · refine ⟨c, rest, rfl, ?_⟩
      rintro rfl
      rw [value, hs] at h
      simp [number, unsigned, digits] at h

/-- What can be read as a number is read as one. -/
theorem value_of_number {cs : List Char} {r : Datum × List Char} (h : number cs = some r)
    (n : Nat) : value (n + 1) cs = some r := by
  obtain ⟨c, rest, rfl, hc⟩ : ∃ c rest, cs = c :: rest ∧ (c = '-' ∨ c.isDigit = true) := by
    rcases cs with _ | ⟨c, rest⟩
    · simp [number, unsigned, digits] at h
    · refine ⟨c, rest, rfl, or_iff_not_imp_left.mpr fun hsign => ?_⟩
      by_contra hdigit
      rw [number_of_ne hsign] at h
      simp [unsigned, digits, hdigit] at h
  have hne : ∀ a ∈ ['"', '[', '\x7b', 'n', 't', 'f', ' ', '\t', '\n', '\r'], c ≠ a := by
    have hall : ['"', '[', '\x7b', 'n', 't', 'f', ' ', '\t', '\n', '\r'].all
        (fun a => !(a == '-' || a.isDigit)) = true := by
      decide
    rintro a ha rfl
    have hnot := List.all_eq_true.mp hall c ha
    rcases hc with rfl | hdigit
    · cases hnot
    · simp [hdigit] at hnot
  have hspace : isSpace c = false := by
    simp [isSpace, hne]
  rw [value, skip_cons hspace]
  split
  all_goals simp_all

/-- No field starts with the bracket that closes an object. -/
theorem field_start {v : List Char → Option (Datum × List Char)} {cs : List Char}
    {r : (String × Datum) × List Char} (h : field v cs = some r) :
    ∃ c rest, skip cs = c :: rest ∧ c ≠ '\x7d' := by
  unfold field at h
  split at h
  · exact ⟨_, _, by assumption, by decide⟩
  · cases h

/-- A text is written between quotes, character by character. -/
theorem toList_jsonString (rd : Reading) (s : String) (rest : List Char) :
    (jsonString rd s).toList ++ rest = '"' :: (s.toList.flatMap (jsonChar rd) ++ '"' :: rest) := by
  simp [jsonString]

/-- A written string as a value. -/
theorem value_jsonString {rd : Reading} {s : String} (h : Whole rd s) (n : Nat) (rest : List Char) :
    value (n + 1) ((jsonString rd s).toList ++ rest) = some (.text s, rest) := by
  rw [toList_jsonString, value, skip_cons (by decide)]
  simp only [string_jsonString h, Option.map_some]

/-- A written field is read back if its value is. -/
theorem field_jsonString {rd : Reading} {v : List Char → Option (Datum × List Char)} {key : String}
    (hkey : Whole rd key) {gap : List Char} (hgap : ∀ c ∈ gap, isSpace c = true) {cs rest : List Char}
    {d : Datum} (hv : v (' ' :: cs) = some (d, rest)) :
    field v (gap ++ ((jsonString rd key ++ ": ").toList ++ cs)) = some ((key, d), rest) := by
  have htext : (jsonString rd key ++ ": ").toList ++ cs =
      '"' :: (key.toList.flatMap (jsonChar rd) ++ '"' :: ':' :: ' ' :: cs) := by
    rw [String.toList_append, List.append_assoc, toList_jsonString]
    rfl
  rw [field, skip_append hgap, htext, skip_cons (by decide)]
  simp only [string_jsonString hkey, Option.bind_some,
    skip_cons (show isSpace ':' = false by decide), hv, Option.map_some]

end Codebook.Json
