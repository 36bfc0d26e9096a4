import Mathlib
import Codebook.Text.Utf8

/-!
# Reading encoded texts back

The decoder takes the encoding of a text back to the text, all at once (`decode_encode`) or in pieces
of any size (`decodePieces_encode`). A piece can end inside a character. Its bytes are then kept for
the next piece, because the beginning of a character is told from any other failure (`Encodes.part`).
-/

namespace Codebook.Text

/-! ## One character -/

/-- The bytes `b :: bs` encode the character with the number `n`: they are read as such whatever
follows them, and fewer of them are the beginning of a character. -/
structure Encodes (n : Nat) (b : UInt8) (bs : List UInt8) : Prop where
  whole (rest : List UInt8) : decodeOne b (bs ++ rest) = .ok (n, bs.length + 1)
  part {k : Nat} (h : k < bs.length) : decodeOne b (bs.take k) = .error (.endOfData, k + 1)

section Bytes

variable {b b₂ b₃ b₄ : UInt8}

/-- One byte encodes an ASCII character. -/
theorem encodes_one (hb : b.toNat < 0x80) : Encodes b.toNat b [] := by
  have hlead : b < 0x80 := hb
  exact ⟨fun rest => by simp [decodeOne, hlead], fun h => absurd h (Nat.not_lt_zero _)⟩

/-- Two bytes encode eleven bits. -/
theorem encodes_two (hb : 0xc2 ≤ b.toNat ∧ b.toNat < 0xe0) (h₂ : isContinuation b₂ = true) :
    Encodes (b.toNat % 32 * 64 + b₂.toNat % 64) b [b₂] := by
  have hlead : ¬ b < 0x80 ∧ ¬ b < 0xc2 ∧ b < 0xe0 := by
    simp only [UInt8.lt_iff_toNat_lt, UInt8.reduceToNat]
    omega
  constructor
  · intro rest
    simp [decodeOne, hlead, h₂]
  · intro k hk
    obtain rfl : k = 0 := by simpa using hk
    simp [decodeOne, hlead]

/-- The second byte decides whether the first may be the lowest or the highest of its kind. -/
theorem pair_eq_false (bound low high : UInt8) (hlow : b.toNat = low.toNat → bound.toNat ≤ b₂.toNat)
    (hhigh : b.toNat = high.toNat → b₂.toNat < bound.toNat) :
    (if b₂ < bound then b == low else b == high) = false := by
  simp only [Bool.ite_eq_false_distrib, beq_eq_false_iff_ne, ne_eq, ← UInt8.toNat_inj,
    UInt8.lt_iff_toNat_lt]
  split_ifs <;> omega

/-- Three bytes encode sixteen bits, without surrogates. -/
theorem encodes_three (hb : 0xe0 ≤ b.toNat ∧ b.toNat < 0xf0) (h₂ : isContinuation b₂ = true)
    (h₃ : isContinuation b₃ = true) (hlow : b.toNat = 0xe0 → 0xa0 ≤ b₂.toNat)
    (hhigh : b.toNat = 0xed → b₂.toNat < 0xa0) :
    Encodes (b.toNat % 16 * 4096 + b₂.toNat % 64 * 64 + b₃.toNat % 64) b [b₂, b₃] := by
  have hlead : ¬ b < 0x80 ∧ ¬ b < 0xc2 ∧ ¬ b < 0xe0 ∧ b < 0xf0 := by
    simp only [UInt8.lt_iff_toNat_lt, UInt8.reduceToNat]
    omega
  have hpair := pair_eq_false 0xa0 0xe0 0xed hlow hhigh
  constructor
  · intro rest
    simp [decodeOne, hlead, h₂, h₃, hpair]
  · intro k hk
    obtain rfl | rfl : k = 0 ∨ k = 1 := by simp at hk; omega
    · simp [decodeOne, hlead]
    · simp [decodeOne, hlead, h₂, hpair]

/-- Four bytes encode the other characters. -/
theorem encodes_four (hb : 0xf0 ≤ b.toNat ∧ b.toNat < 0xf5) (h₂ : isContinuation b₂ = true)
    (h₃ : isContinuation b₃ = true) (h₄ : isContinuation b₄ = true)
    (hlow : b.toNat = 0xf0 → 0x90 ≤ b₂.toNat) (hhigh : b.toNat = 0xf4 → b₂.toNat < 0x90) :
    Encodes (b.toNat % 8 * 262144 + b₂.toNat % 64 * 4096 + b₃.toNat % 64 * 64 + b₄.toNat % 64) b
      [b₂, b₃, b₄] := by
  have hlead : ¬ b < 0x80 ∧ ¬ b < 0xc2 ∧ ¬ b < 0xe0 ∧ ¬ b < 0xf0 ∧ b < 0xf5 := by
    simp only [UInt8.lt_iff_toNat_lt, UInt8.reduceToNat]
    omega
  have hpair := pair_eq_false 0x90 0xf0 0xf4 hlow hhigh
  constructor
  · intro rest
    simp [decodeOne, hlead, h₂, h₃, h₄, hpair]
  · intro k hk
    obtain rfl | rfl | rfl : k = 0 ∨ k = 1 ∨ k = 2 := by simp at hk; omega
    · simp [decodeOne, hlead]
    · simp [decodeOne, hlead, h₂, hpair]
    · simp [decodeOne, hlead, h₂, h₃, hpair]

end Bytes

/-- A small number is a byte. -/
theorem toNat_byte {n : Nat} (h : n < 256) : (UInt8.ofNat n).toNat = n :=
  UInt8.toNat_ofNat_of_lt' h

/-- Six bits make a continuation byte. -/
theorem isContinuation_byte (n : Nat) : isContinuation (UInt8.ofNat (n % 64 + 128)) = true := by
  have hbyte : (UInt8.ofNat (n % 64 + 128)).toNat = n % 64 + 128 := toNat_byte (by omega)
  simp only [isContinuation, Bool.and_eq_true, decide_eq_true_eq, UInt8.le_iff_toNat_le, hbyte,
    UInt8.reduceToNat]
  omega

/-- The encoding of a character is read as that character. -/
theorem exists_encodes (c : Char) :
    ∃ b bs, String.utf8EncodeChar c = b :: bs ∧ Encodes c.toNat b bs := by
  have hvalid : c.toNat < 0xd800 ∨ 0xdfff < c.toNat ∧ c.toNat < 0x110000 := c.valid
  rw [String.utf8EncodeChar]
  simp only [Char.toNat_val]
  generalize c.toNat = v at hvalid ⊢
  have htail : ∀ n, (UInt8.ofNat (n % 64 + 128)).toNat = n % 64 + 128 :=
    fun n => toNat_byte (by omega)
  have hcont := isContinuation_byte
  by_cases h₁ : v ≤ 127
  · have hb : (UInt8.ofNat v).toNat = v := toNat_byte (by omega)
    refine ⟨_, _, if_pos h₁, ?_⟩
    have henc : Encodes (UInt8.ofNat v).toNat (UInt8.ofNat v) [] := encodes_one (by omega)
    rwa [hb] at henc
  rw [if_neg h₁]
  by_cases h₂ : v ≤ 2047
  · have hb : (UInt8.ofNat (v / 64 % 32 + 192)).toNat = v / 64 % 32 + 192 := toNat_byte (by omega)
    refine ⟨_, _, if_pos h₂, ?_⟩
    have henc := encodes_two (b := UInt8.ofNat (v / 64 % 32 + 192)) (by omega) (hcont v)
    rw [hb, htail] at henc
    convert henc using 1
    omega
  rw [if_neg h₂]
  by_cases h₃ : v ≤ 65535
  · have hb : (UInt8.ofNat (v / 4096 % 16 + 224)).toNat = v / 4096 % 16 + 224 :=
      toNat_byte (by omega)
    refine ⟨_, _, if_pos h₃, ?_⟩
    have henc := encodes_three (b := UInt8.ofNat (v / 4096 % 16 + 224)) (by omega)
      (hcont (v / 64)) (hcont v) (by rw [hb, htail]; omega) (by rw [hb, htail]; omega)
    rw [hb, htail, htail] at henc
    convert henc using 1
    omega
  · have hb : (UInt8.ofNat (v / 262144 % 8 + 240)).toNat = v / 262144 % 8 + 240 :=
      toNat_byte (by omega)
    refine ⟨_, _, if_neg h₃, ?_⟩
    have henc := encodes_four (b := UInt8.ofNat (v / 262144 % 8 + 240)) (by omega)
      (hcont (v / 4096)) (hcont (v / 64)) (hcont v) (by rw [hb, htail]; omega)
      (by rw [hb, htail]; omega)
    rw [hb, htail, htail, htail] at henc
    convert henc using 1
    omega

/-! ## Texts -/

/-- The bytes of some characters. -/
def encodeChars (cs : List Char) : List UInt8 :=
  cs.flatMap String.utf8EncodeChar

/-- Characters are encoded one by one. -/
theorem encodeChars_cons (c : Char) (cs : List Char) :
    encodeChars (c :: cs) = String.utf8EncodeChar c ++ encodeChars cs :=
  List.flatMap_cons

/-- The bytes of an array are listed from the given place on. -/
theorem toList_loop_drop (bs : ByteArray) (i : Nat) (out : List UInt8) :
    ByteArray.toList.loop bs i out = out.reverse ++ bs.data.toList.drop i := by
  fun_induction ByteArray.toList.loop bs i out with
  | case1 i out hi ih =>
    have hlt : i < bs.data.toList.length := hi
    rw [ih, List.drop_eq_getElem_cons hlt, List.reverse_cons, List.append_assoc,
      List.singleton_append]
    congr 2
    exact getElem!_pos bs.data i hi
  | case2 i out hi =>
    rw [List.drop_eq_nil_of_le (not_lt.mp hi), List.append_nil]

/-- A text is encoded character by character. -/
theorem encode_eq (s : String) : encode s = encodeChars s.toList := by
  rw [encode, String.toUTF8, ← String.utf8Encode_toList, ByteArray.toList, toList_loop_drop]
  exact List.toList_data_toByteArray

/-- Skipped bytes count for the position only. -/
theorem decodeFrom_skip (position : Nat) (out : List Char) (skipped rest : List UInt8) :
    decodeFrom position skipped.length out (skipped ++ rest) =
      decodeFrom (position + skipped.length) 0 out rest := by
  induction skipped generalizing position with
  | nil => rfl
  | cons b skipped ih =>
    rw [List.length_cons, List.cons_append, decodeFrom, ih]
    congr 1
    omega

/-- The decoder takes the characters of a text one after another. -/
theorem decodeFrom_encodeChars (position : Nat) (out cs : List Char) (rest : List UInt8) :
    decodeFrom position 0 out (encodeChars cs ++ rest) =
      decodeFrom (position + (encodeChars cs).length) 0 (cs.reverse ++ out) rest := by
  induction cs generalizing position out with
  | nil => rfl
  | cons c cs ih =>
    obtain ⟨b, bs, he, henc⟩ := exists_encodes c
    rw [encodeChars_cons, he, List.append_assoc, List.cons_append, decodeFrom, henc.whole]
    simp only [Nat.add_sub_cancel, Char.ofNat_toNat]
    rw [decodeFrom_skip, ih]
    simp only [List.length_append, List.length_cons, List.reverse_cons, List.append_assoc,
      List.singleton_append]
    congr 1
    omega

/-- What is encoded is decoded again. -/
theorem decode_encodeChars (cs : List Char) : decode (encodeChars cs) = .ok (String.ofList cs) := by
  have h := decodeFrom_encodeChars 0 [] cs []
  rw [List.append_nil] at h
  rw [decode, h, decodeFrom]
  simp [Except.map]

/-- The encoding of a text is read as that text. -/
theorem decode_encode (s : String) : decode (encode s) = .ok s := by
  rw [encode_eq, decode_encodeChars, String.ofList_toList]

/-! ## Pieces -/

/-- Bytes at the end of data that are the beginning of a character, or none. -/
def Pending (bs : List UInt8) : Prop :=
  bs = [] ∨ ∃ c k, 0 < k ∧ k < (String.utf8EncodeChar c).length ∧
    bs = (String.utf8EncodeChar c).take k

/-- What data has of an encoded text: whole characters, and perhaps the beginning of the next. -/
theorem exists_pending {xs ys : List UInt8} {cs : List Char} (h : xs ++ ys = encodeChars cs) :
    ∃ done rest pending, cs = done ++ rest ∧ xs = encodeChars done ++ pending ∧ Pending pending ∧
      pending ++ ys = encodeChars rest := by
  induction cs generalizing xs with
  | nil =>
    obtain ⟨rfl, rfl⟩ := List.append_eq_nil_iff.mp h
    exact ⟨[], [], [], rfl, rfl, .inl rfl, rfl⟩
  | cons c cs ih =>
    rw [encodeChars_cons] at h
    rcases List.append_eq_append_iff.mp h with ⟨zs, hc, hys⟩ | ⟨zs, hxs, hzs⟩
    · -- the data ends within the first character, or right after it
      by_cases hx : xs = []
      · exact ⟨[], c :: cs, [], rfl, hx, .inl rfl, by rw [encodeChars_cons, hc, hx, hys]; rfl⟩
      by_cases hz : zs = []
      · refine ⟨[c], cs, [], rfl, ?_, .inl rfl, by rw [hys, hz]; rfl⟩
        simp [encodeChars, hc, hz]
      · refine ⟨[], c :: cs, xs, rfl, rfl, .inr ⟨c, xs.length, ?_, ?_, by simp [hc]⟩, ?_⟩
        · exact List.length_pos_iff.mpr hx
        · rw [hc, List.length_append]
          have := List.length_pos_iff.mpr hz
          omega
        · rw [encodeChars_cons, hc, hys, List.append_assoc]
    · obtain ⟨done, rest, pending, rfl, rfl, hp, hrest⟩ := ih hzs.symm
      exact ⟨c :: done, rest, pending, rfl, by rw [hxs, encodeChars_cons, List.append_assoc], hp,
        hrest⟩

/-- A piece gives its whole characters and leaves the beginning of the next one. -/
theorem decodeStart_pending (cs : List Char) {pending : List UInt8} (h : Pending pending) :
    decodeStart (encodeChars cs ++ pending) = .ok (String.ofList cs, pending) := by
  rcases h with rfl | ⟨c, k, hpos, hlt, rfl⟩
  · rw [List.append_nil, decodeStart, decode_encodeChars]
  · obtain ⟨b, bs, he, henc⟩ := exists_encodes c
    obtain ⟨k, rfl⟩ : ∃ j, k = j + 1 := ⟨k - 1, by omega⟩
    rw [he, List.length_cons] at hlt
    have hpart := henc.part (k := k) (by omega)
    have hfail : decode (encodeChars cs ++ b :: bs.take k) =
        .error ⟨.endOfData, (encodeChars cs).length, (b :: bs.take k).take (k + 1)⟩ := by
      rw [decode, decodeFrom_encodeChars, decodeFrom, hpart]
      simp [Except.map]
    rw [he, List.take_succ_cons, decodeStart, hfail]
    simp only [if_true, List.take_left, List.drop_left, decode_encodeChars]
    rfl

/-- An encoded text that comes in pieces is read as that text. -/
theorem decodePieces_encodeChars {pending : List UInt8} {ps : List (List UInt8)} {cs : List Char}
    (out : List Char) (h : pending ++ ps.flatten = encodeChars cs) :
    decodePieces pending out ps = (out ++ cs, none) := by
  induction ps generalizing pending out cs with
  | nil =>
    rw [List.flatten_nil, List.append_nil] at h
    rw [h, decodePieces, decode_encodeChars]
    simp
  | cons piece ps ih =>
    rw [List.flatten_cons, ← List.append_assoc] at h
    obtain ⟨done, rest, pending', rfl, hxs, hp, hrest⟩ := exists_pending h
    rw [decodePieces, hxs, decodeStart_pending done hp]
    simp [ih (out ++ done) hrest]

/-- The pieces are the whole. -/
theorem flatten_piecesFrom (size room : Nat) (piece bs : List UInt8) :
    (piecesFrom size room piece bs).flatten = piece.reverse ++ bs := by
  induction bs generalizing room piece with
  | nil => cases piece <;> simp [piecesFrom]
  | cons b bs ih =>
    cases room with
    | zero => simp [piecesFrom, ih]
    | succ room => simp [piecesFrom, ih]

/-- Reading the encoding of a text in pieces of any size gives the text. -/
theorem decodePieces_encode (size : Nat) (s : String) :
    decodePieces [] [] (pieces size (encode s)) = (s.toList, none) := by
  refine (decodePieces_encodeChars [] ?_).trans (by rw [List.nil_append])
  rw [pieces, flatten_piecesFrom, encode_eq]
  rfl

end Codebook.Text
